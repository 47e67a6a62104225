import CanDriver.Lib.Prog

/-!
# CanDriver.Lib.Pool

Threads that share a state and take turns, one operation at a time.

`Pool.Step` is the interleaving semantics: an idle thread may be given a call,
a running thread may perform the next operation of its program, a finished one
may return.  What an operation does to the shared state is a parameter, a
relation that also sees which thread acts (so that a mutex can be modelled).

* `Reach.invariant` — the induction rule for runs whose steps all meet a
  side condition;
* `Pool.follows_step` — the concurrent counterpart of `Prog.eval_of_wp`: when
  every thread follows a protocol and nobody moves another thread's ghost
  state, every thread keeps following its protocol.
-/

namespace Interact

/-! ## runs -/

/-- The states reached from `s₀` by steps that all meet the condition `C`. -/
def Reach (step : σ → ℓ → σ → Prop) (C : σ → ℓ → Prop) : σ → σ → Prop :=
  Relation.ReflTransGen fun s s' => ∃ l, C s l ∧ step s l s'

/-- **Run**: what the steps meeting `C` preserve holds wherever such a run leads. -/
theorem Reach.invariant {step : σ → ℓ → σ → Prop} {C : σ → ℓ → Prop} {I : σ → Prop}
    (h0 : I s₀) (hstep : ∀ s l s', I s → C s l → step s l s' → I s')
    (hr : Reach step C s₀ s) : I s := by
  induction hr with
  | refl => exact h0
  | tail _ hs ih =>
      obtain ⟨l, hC, hs⟩ := hs
      exact hstep _ l _ ih hC hs

/-- Where an invariant turns one condition into another, a run meeting the one meets the
other. -/
theorem Reach.strengthen {step : σ → ℓ → σ → Prop} {C C' : σ → ℓ → Prop} {I : σ → Prop} (h0 : I s₀)
    (hstep : ∀ s l s', I s → C s l → step s l s' → C' s l ∧ I s')
    (hr : Reach step C s₀ s) : Reach step C' s₀ s := by
  have h : Reach step C' s₀ s ∧ I s := by
    induction hr with
    | refl => exact ⟨.refl, h0⟩
    | tail _ hs ih =>
        obtain ⟨l, hC, hs⟩ := hs
        obtain ⟨hC', hI⟩ := hstep _ l _ ih.2 hC hs
        exact ⟨.tail ih.1 ⟨l, hC', hs⟩, hI⟩
  exact h.1

/-- A run is extended by one more step that meets the condition. -/
theorem Reach.step {step : σ → ℓ → σ → Prop} {C : σ → ℓ → Prop}
    (hr : Reach step C s₀ s) (hC : C s l) (hs : step s l s') : Reach step C s₀ s' :=
  Relation.ReflTransGen.tail hr ⟨l, hC, hs⟩

/-! ## thread pools -/

/-- A thread at work: the call it serves and what is left of its program. -/
structure Thread (S : Sig) (κ α : Type) where
  call : κ
  prog : Prog S α

/-- A shared state and the threads that work on it; `none` is an idle thread. -/
structure Pool (S : Sig) (ι κ α σ : Type) where
  shared : σ
  thread : ι → Option (Thread S κ α)

/-- What happens in one step of a pool. -/
inductive Event (S : Sig) (ι κ α : Type) where
  | call (i : ι) (c : κ)
  | act (i : ι) (op : S.Op)
  | ret (i : ι) (a : α)

/-- The thread it happens to. -/
def Event.actor {S : Sig} {ι κ α : Type} : Event S ι κ α → ι
  | .call i _ | .act i _ | .ret i _ => i

namespace Pool

variable {S : Sig} {ι κ α σ γ : Type} [DecidableEq ι]

/-- Give thread `i` something else to do. -/
def setThread (p : Pool S ι κ α σ) (i : ι) (t : Option (Thread S κ α)) : Pool S ι κ α σ :=
  { p with thread := Function.update p.thread i t }

/-- One step of one thread.  `code` is the program of each call and
`h s i op r s'` says that in `s` thread `i` may perform `op`, be answered `r`
and leave `s'`. -/
inductive Step (code : κ → Prog S α) (h : σ → ι → (op : S.Op) → S.Ans op → σ → Prop) :
    Pool S ι κ α σ → Event S ι κ α → Pool S ι κ α σ → Prop
  | call (p) (i : ι) (c : κ) (hi : p.thread i = none) :
      Step code h p (.call i c) (p.setThread i (some ⟨c, code c⟩))
  | act (p) (i : ι) (c : κ) (op : S.Op) (k : S.Ans op → Prog S α) (r : S.Ans op) (s' : σ)
      (hi : p.thread i = some ⟨c, .vis op k⟩) (hop : h p.shared i op r s') :
      Step code h p (.act i op) ⟨s', (p.setThread i (some ⟨c, k r⟩)).thread⟩
  | ret (p) (i : ι) (c : κ) (a : α) (hi : p.thread i = some ⟨c, .ret a⟩) :
      Step code h p (.ret i a) (p.setThread i none)

/-- A pool with nothing going on. -/
def idle (s : σ) : Pool S ι κ α σ := ⟨s, fun _ => none⟩

/-! ### what the threads are at -/

section

variable {code : κ → Prog S α} {h : σ → ι → (op : S.Op) → S.Ans op → σ → Prop}
  {p p' : Pool S ι κ α σ} {i : ι}

omit [DecidableEq ι] in
/-- The call a thread serves. -/
def serving (p : Pool S ι κ α σ) (i : ι) : Option κ := (p.thread i).map Thread.call

theorem serving_call {c : κ} (hs : Step code h p (.call i c) p') (j : ι) :
    p'.serving j = if j = i then some c else p.serving j := by
  cases hs with
  | call =>
      by_cases hji : j = i
      · simp [serving, setThread, hji]
      · simp [serving, setThread, hji]

theorem serving_act {op : S.Op} (hs : Step code h p (.act i op) p') (j : ι) :
    p'.serving j = p.serving j := by
  cases hs with
  | act _ c _ _ _ _ hi =>
      by_cases hji : j = i
      · simp [serving, setThread, hji, hi]
      · simp [serving, setThread, hji]

theorem serving_ret {a : α} (hs : Step code h p (.ret i a) p') (j : ι) :
    p'.serving j = if j = i then none else p.serving j := by
  cases hs with
  | ret =>
      by_cases hji : j = i
      · simp [serving, setThread, hji]
      · simp [serving, setThread, hji]

end

/-! ### threads that follow protocols -/

/-- Every thread follows the protocol of its call from its own ghost state; an
idle thread is where a call starts. -/
def Follows (P : κ → Protocol S γ) (start : γ) (ghost : σ → ι → γ) (p : Pool S ι κ α σ) : Prop :=
  ∀ i, match p.thread i with
    | none => ghost p.shared i = start
    | some t => t.prog.wp (P t.call) (fun _ g => g = start) (ghost p.shared i)

variable {P : κ → Protocol S γ} {start : γ} {ghost : σ → ι → γ} {p p' : Pool S ι κ α σ}

omit [DecidableEq ι] in
/-- What a running thread still has to do obeys its protocol. -/
theorem Follows.wp (hf : Follows P start ghost p) (hi : p.thread i = some t) :
    t.prog.wp (P t.call) (fun _ g => g = start) (ghost p.shared i) := by
  have h := hf i
  rw [hi] at h
  exact h

/-- **Step**: threads that follow their protocols keep doing so. -/
theorem follows_step {code : κ → Prog S α} {h : σ → ι → (op : S.Op) → S.Ans op → σ → Prop}
    (hcode : ∀ c, (code c).wp (P c) (fun _ g => g = start) start)
    (hself : ∀ s i op r s' c, h s i op r s' → (P c).allow (ghost s i) op →
      (P c).accepts (ghost s i) op r ∧ ghost s' i = (P c).next (ghost s i) op r)
    (hother : ∀ s i op r s' j, h s i op r s' → j ≠ i → ghost s' j = ghost s j)
    (hf : Follows P start ghost p) (hs : Step code h p e p') : Follows P start ghost p' := by
  intro j
  cases hs with
  | call i c hi =>
      have hj := hf j
      by_cases hji : j = i
      · subst hji
        rw [hi] at hj
        simpa [setThread, hj] using hcode c
      · simpa [setThread, hji] using hj
  | act i c op k r s' hi hop =>
      by_cases hji : j = i
      · subst hji
        have hw := hf.wp hi
        obtain ⟨haccepts, hnext⟩ := hself _ _ _ _ _ c hop hw.1
        simpa [setThread, hnext] using hw.2 r haccepts
      · have hj := hf j
        simpa [setThread, hji, hother _ _ _ _ _ j hop hji] using hj
  | ret i c a hi =>
      by_cases hji : j = i
      · subst hji
        simpa [setThread] using hf.wp hi
      · have hj := hf j
        simpa [setThread, hji] using hj

/-! ## the calls that are made -/

/-- The threads only work on calls of a kind. -/
def Working (C : κ → Prop) (p : Pool S ι κ α σ) : Prop := ∀ i t, p.thread i = some t → C t.call

/-- **Step**: they do as long as only such calls are made. -/
theorem Working.step {C : κ → Prop} {code : κ → Prog S α}
    {h : σ → ι → (op : S.Op) → S.Ans op → σ → Prop} (hp : Working C p)
    (hcall : ∀ i c, e = .call i c → C c) (hs : Step code h p e p') : Working C p' := by
  have hothers : ∀ i c q, C c → Working C (p.setThread i (some ⟨c, q⟩)) := by
    intro i c q hc j t hj
    by_cases hji : j = i
    · obtain rfl : (⟨c, q⟩ : Thread S κ α) = t := by simpa [setThread, hji] using hj
      exact hc
    · exact hp j t (by simpa [setThread, hji] using hj)
  cases hs with
  | call i c hi => exact hothers i c _ (hcall i c rfl)
  | act i c op k r s' hi hop => exact hothers i c (k r) (hp i _ hi)
  | ret i c a hi =>
      intro j t hj
      by_cases hji : j = i
      · simp [setThread, hji] at hj
      · exact hp j t (by simpa [setThread, hji] using hj)

/-! ## disciplined threads -/

/-- The shared state has its invariant, and every thread obeys the discipline of its
call: protocols without ghost state, which may rely on the invariant. -/
structure Disciplined (P : κ → Protocol S Unit) (Inv : σ → Prop) (p : Pool S ι κ α σ) : Prop where
  shared : Inv p.shared
  thread : ∀ i t, p.thread i = some t → t.prog.Obeys (P t.call)

/-- **Step**: disciplined threads keep the invariant, and stay disciplined. -/
theorem Disciplined.step {P : κ → Protocol S Unit} {Inv : σ → Prop} {code : κ → Prog S α}
    {h : σ → ι → (op : S.Op) → S.Ans op → σ → Prop}
    (hserve : ∀ s i c op r s', Inv s → h s i op r s' → (P c).allow () op →
      (P c).accepts () op r ∧ Inv s')
    (hd : Disciplined P Inv p) (hcall : ∀ i c, e = .call i c → (code c).Obeys (P c))
    (hs : Step code h p e p') : Disciplined P Inv p' := by
  cases hs with
  | call i c hi =>
      refine ⟨hd.shared, fun j t hj => ?_⟩
      by_cases hji : j = i
      · obtain rfl : (⟨c, code c⟩ : Thread S κ α) = t := by simpa [setThread, hji] using hj
        exact hcall i c rfl
      · exact hd.thread j t (by simpa [setThread, hji] using hj)
  | act i c op k r s' hi hop =>
      have hw := hd.thread i _ hi
      obtain ⟨haccepts, hinv⟩ := hserve _ _ c _ _ _ hd.shared hop hw.1
      refine ⟨hinv, fun j t hj => ?_⟩
      by_cases hji : j = i
      · obtain rfl : (⟨c, k r⟩ : Thread S κ α) = t := by simpa [setThread, hji] using hj
        exact hw.2 r haccepts
      · exact hd.thread j t (by simpa [setThread, hji] using hj)
  | ret i c a hi =>
      refine ⟨hd.shared, fun j t hj => ?_⟩
      by_cases hji : j = i
      · simp [setThread, hji] at hj
      · exact hd.thread j t (by simpa [setThread, hji] using hj)

omit [DecidableEq ι] in
theorem Disciplined.idle {P : κ → Protocol S Unit} {Inv : σ → Prop} {s : σ} (hs : Inv s) :
    Disciplined P Inv (idle s : Pool S ι κ α σ) :=
  ⟨hs, by simp [Pool.idle]⟩

/-- What a disciplined thread does, its discipline allows. -/
theorem Disciplined.allow {P : κ → Protocol S Unit} {Inv : σ → Prop} {code : κ → Prog S α}
    {h : σ → ι → (op : S.Op) → S.Ans op → σ → Prop} (hd : Disciplined P Inv p)
    (hi : p.thread i = some t) (hs : Step code h p (.act i op) p') :
    (P t.call).allow () op ∧ ∃ r, h p.shared i op r p'.shared := by
  cases hs with
  | act i c op k r s' hi' hop =>
      obtain rfl : (⟨c, .vis op k⟩ : Thread S κ α) = t := Option.some.inj (hi'.symm.trans hi)
      exact ⟨(hd.thread i _ hi).1, r, hop⟩

/-! ## attentive threads -/

/-- The shared state has its invariant, and every thread follows the protocol of its call
from a ghost state of its own, which `R` relates to what is recorded of the run, and returns only
where `Q` holds. -/
structure Concludes (P : κ → Protocol S γ) (Q : κ → α → γ → Prop) (I : ω → σ → Prop)
    (R : ω → ι → κ → γ → Prop) (w : ω) (p : Pool S ι κ α σ) : Prop where
  shared : I w p.shared
  thread : ∀ i t, p.thread i = some t →
    ∃ g, R w i t.call g ∧ t.prog.wp (P t.call) (Q t.call) g

/-- **Step**: a step of one thread keeps the invariant and its own relation to the record,
and disturbs no other thread's; then all go on to their conclusions. -/
theorem Concludes.step {P : κ → Protocol S γ} {Q : κ → α → γ → Prop} {I : ω → σ → Prop}
    {R : ω → ι → κ → γ → Prop} {code : κ → Prog S α}
    {h : σ → ι → (op : S.Op) → S.Ans op → σ → Prop} {w w' : ω} (hd : Concludes P Q I R w p)
    (hcall : ∀ i c, e = .call i c → p.thread i = none → I w' p.shared ∧
      ∃ g, R w' i c g ∧ (code c).wp (P c) (Q c) g)
    (hact : ∀ i c op k g r s', e = .act i op → p.thread i = some ⟨c, .vis op k⟩ → R w i c g →
      (P c).allow g op → h p.shared i op r s' → p'.shared = s' →
      (P c).accepts g op r ∧ I w' s' ∧ R w' i c ((P c).next g op r))
    (hret : ∀ i a, e = .ret i a → I w' p.shared)
    (hother : ∀ j c g, j ≠ e.actor → R w j c g → R w' j c g)
    (hs : Step code h p e p') : Concludes P Q I R w' p' := by
  have hothers : ∀ q, (∀ j t, j ≠ e.actor → (p.setThread e.actor q).thread j = some t →
      ∃ g, R w' j t.call g ∧ t.prog.wp (P t.call) (Q t.call) g) := by
    intro q j t hji hj
    obtain ⟨g, hR, hwp⟩ := hd.thread j t (by simpa [setThread, hji] using hj)
    exact ⟨g, hother j _ g hji hR, hwp⟩
  cases hs with
  | call i c hi =>
      obtain ⟨hI, g, hR, hwp⟩ := hcall i c rfl hi
      refine ⟨hI, fun j t hj => ?_⟩
      by_cases hji : j = i
      · obtain rfl : (⟨c, code c⟩ : Thread S κ α) = t := by simpa [setThread, hji] using hj
        exact ⟨g, hji ▸ hR, hwp⟩
      · exact hothers _ j t hji hj
  | act i c op k r s' hi hop =>
      obtain ⟨g, hR, hwp⟩ := hd.thread i _ hi
      obtain ⟨haccepts, hI, hR'⟩ := hact i c op k g r s' rfl hi hR hwp.1 hop rfl
      refine ⟨hI, fun j t hj => ?_⟩
      by_cases hji : j = i
      · obtain rfl : (⟨c, k r⟩ : Thread S κ α) = t := by simpa [setThread, hji] using hj
        exact ⟨_, hji ▸ hR', hwp.2 r haccepts⟩
      · exact hothers _ j t hji hj
  | ret i c a hi =>
      refine ⟨hret i a rfl, fun j t hj => ?_⟩
      by_cases hji : j = i
      · simp [setThread, hji] at hj
      · exact hothers _ j t hji hj

omit [DecidableEq ι] in
theorem Concludes.idle {P : κ → Protocol S γ} {Q : κ → α → γ → Prop} {I : ω → σ → Prop}
    {R : ω → ι → κ → γ → Prop} {w : ω} {s : σ} (hs : I w s) :
    Concludes P Q I R w (idle s : Pool S ι κ α σ) :=
  ⟨hs, by simp [Pool.idle]⟩

/-- **Conclusion**: a call returns where its postcondition holds. -/
theorem Concludes.ret {P : κ → Protocol S γ} {Q : κ → α → γ → Prop} {I : ω → σ → Prop}
    {R : ω → ι → κ → γ → Prop} {code : κ → Prog S α}
    {h : σ → ι → (op : S.Op) → S.Ans op → σ → Prop} {w : ω} (hd : Concludes P Q I R w p)
    (hi : p.thread i = some t) (hs : Step code h p (.ret i a) p') :
    ∃ g, R w i t.call g ∧ Q t.call a g := by
  cases hs with
  | ret i c a hi' =>
      obtain rfl : (⟨c, .ret a⟩ : Thread S κ α) = t := Option.some.inj (hi'.symm.trans hi)
      exact hd.thread i _ hi

/-- Likewise for threads of whose results nothing is asked. -/
structure Attends (P : κ → Protocol S γ) (I : ω → σ → Prop) (R : ω → ι → κ → γ → Prop) (w : ω)
    (p : Pool S ι κ α σ) : Prop where
  shared : I w p.shared
  thread : ∀ i t, p.thread i = some t →
    ∃ g, R w i t.call g ∧ t.prog.wp (P t.call) (fun _ _ => True) g

/-- **Step**: a step of one thread keeps the invariant and its own relation to the record,
and disturbs no other thread's; then all stay attentive. -/
theorem Attends.step {P : κ → Protocol S γ} {I : ω → σ → Prop} {R : ω → ι → κ → γ → Prop}
    {code : κ → Prog S α} {h : σ → ι → (op : S.Op) → S.Ans op → σ → Prop} {w w' : ω}
    (hd : Attends P I R w p)
    (hcall : ∀ i c, e = .call i c → p.thread i = none → I w' p.shared ∧
      ∃ g, R w' i c g ∧ (code c).wp (P c) (fun _ _ => True) g)
    (hact : ∀ i c op k g r s', e = .act i op → p.thread i = some ⟨c, .vis op k⟩ → R w i c g →
      (P c).allow g op → h p.shared i op r s' → p'.shared = s' →
      (P c).accepts g op r ∧ I w' s' ∧ R w' i c ((P c).next g op r))
    (hret : ∀ i a, e = .ret i a → I w' p.shared)
    (hother : ∀ j c g, j ≠ e.actor → R w j c g → R w' j c g)
    (hs : Step code h p e p') : Attends P I R w' p' := by
  have hconcludes : Concludes P (fun _ _ _ => True) I R w p := ⟨hd.shared, hd.thread⟩
  have hnext := hconcludes.step hcall hact hret hother hs
  exact ⟨hnext.shared, hnext.thread⟩

omit [DecidableEq ι] in
theorem Attends.idle {P : κ → Protocol S γ} {I : ω → σ → Prop} {R : ω → ι → κ → γ → Prop} {w : ω}
    {s : σ} (hs : I w s) : Attends P I R w (idle s : Pool S ι κ α σ) :=
  ⟨hs, by simp [Pool.idle]⟩

/-! ## threads with possessions -/

/-- Every thread follows the protocol from what it holds, and the shared state fits what the
threads hold together. -/
structure Holding (P : Protocol S γ) (I : (ι → γ) → σ → Prop) (hold : ι → γ)
    (p : Pool S ι κ α σ) : Prop where
  shared : I hold p.shared
  thread : ∀ i t, p.thread i = some t → t.prog.wp P (fun _ _ => True) (hold i)

/-- **Step**: an operation changes what its own thread holds; if the shared state fits that
again, the threads go on. -/
theorem Holding.step {P : Protocol S γ} {I : (ι → γ) → σ → Prop} {hold : ι → γ}
    {code : κ → Prog S α} {h : σ → ι → (op : S.Op) → S.Ans op → σ → Prop}
    (hd : Holding P I hold p) (hcode : ∀ c, (code c).Upholds P)
    (hact : ∀ i op r s', e = .act i op → P.allow (hold i) op → h p.shared i op r s' →
      P.accepts (hold i) op r ∧ I (Function.update hold i (P.next (hold i) op r)) s')
    (hs : Step code h p e p') : ∃ hold', Holding P I hold' p' := by
  cases hs with
  | call i c hi =>
      refine ⟨hold, hd.shared, fun j t hj => ?_⟩
      by_cases hji : j = i
      · obtain rfl : (⟨c, code c⟩ : Thread S κ α) = t := by simpa [setThread, hji] using hj
        exact hcode c _
      · exact hd.thread j t (by simpa [setThread, hji] using hj)
  | act i c op k r s' hi hop =>
      have hw := hd.thread i _ hi
      obtain ⟨haccepts, hI⟩ := hact i op r s' rfl hw.1 hop
      refine ⟨Function.update hold i (P.next (hold i) op r), hI, fun j t hj => ?_⟩
      by_cases hji : j = i
      · subst hji
        obtain rfl : (⟨c, k r⟩ : Thread S κ α) = t := by simpa [setThread] using hj
        rw [Function.update_self]
        exact hw.2 r haccepts
      · rw [Function.update_of_ne hji]
        exact hd.thread j t (by simpa [setThread, hji] using hj)
  | ret i c a hi =>
      refine ⟨hold, hd.shared, fun j t hj => ?_⟩
      by_cases hji : j = i
      · simp [setThread, hji] at hj
      · exact hd.thread j t (by simpa [setThread, hji] using hj)

omit [DecidableEq ι] in
theorem Holding.idle {P : Protocol S γ} {I : (ι → γ) → σ → Prop} {hold : ι → γ} {s : σ}
    (hs : I hold s) : Holding P I hold (idle s : Pool S ι κ α σ) :=
  ⟨hs, by simp [Pool.idle]⟩

/-! ## scripted runs -/

/-- What a script may ask for: a call, or the next move of a thread. -/
inductive Move (ι κ : Type) where
  | call (i : ι) (c : κ)
  | go (i : ι)

/-- Thread `i` makes a call and `n` moves of it. -/
def callFor (i : ι) (c : κ) (n : Nat) : List (Move ι κ) := .call i c :: List.replicate n (.go i)

/-- Make one move, with `f` serving the operations. -/
def move (code : κ → Prog S α) (f : σ → ι → (op : S.Op) → Option (S.Ans op × σ))
    (p : Pool S ι κ α σ) : Move ι κ → Option (Event S ι κ α × Pool S ι κ α σ)
  | .call i c =>
      match p.thread i with
      | none => some (.call i c, p.setThread i (some ⟨c, code c⟩))
      | some _ => none
  | .go i =>
      match p.thread i with
      | none => none
      | some ⟨_, .ret a⟩ => some (.ret i a, p.setThread i none)
      | some ⟨c, .vis op k⟩ =>
          match f p.shared i op with
          | none => none
          | some (r, s') => some (.act i op, ⟨s', (p.setThread i (some ⟨c, k r⟩)).thread⟩)

/-- A move is a step. -/
theorem step_of_move {code : κ → Prog S α} {f : σ → ι → (op : S.Op) → Option (S.Ans op × σ)}
    {h : σ → ι → (op : S.Op) → S.Ans op → σ → Prop}
    (hf : ∀ s i op r s', f s i op = some (r, s') → h s i op r s')
    (hm : move code f p m = some (e, p')) : Step code h p e p' := by
  cases m with
  | call i c =>
      cases hi : p.thread i with
      | some t => simp [move, hi] at hm
      | none =>
          simp only [move, hi, Option.some.injEq, Prod.mk.injEq] at hm
          obtain ⟨rfl, rfl⟩ := hm
          exact .call p i c hi
  | go i =>
      match hi : p.thread i with
      | none => simp [move, hi] at hm
      | some ⟨c, .ret a⟩ =>
          simp only [move, hi, Option.some.injEq, Prod.mk.injEq] at hm
          obtain ⟨rfl, rfl⟩ := hm
          exact .ret p i c a hi
      | some ⟨c, .vis op k⟩ =>
          match hfi : f p.shared i op with
          | none => simp [move, hi, hfi] at hm
          | some (r, s') =>
              simp only [move, hi, hfi, Option.some.injEq, Prod.mk.injEq] at hm
              obtain ⟨rfl, rfl⟩ := hm
              exact .act p i c op k r s' hi (hf _ _ _ _ _ hfi)

/-- The move of a thread is its own. -/
theorem actor_of_move {code : κ → Prog S α} {f : σ → ι → (op : S.Op) → Option (S.Ans op × σ)}
    (hm : move code f p (.go j) = some (.act i op, p')) : i = j := by
  match hj : p.thread j with
  | none => simp [move, hj] at hm
  | some ⟨c, .ret a⟩ => simp [move, hj] at hm
  | some ⟨c, .vis op' k⟩ =>
      match hf : f p.shared j op' with
      | none => simp [move, hj, hf] at hm
      | some (r, s') =>
          simp only [move, hj, hf, Option.some.injEq, Prod.mk.injEq, Event.act.injEq] at hm
          exact hm.1.1.symm

/-- The operation of a move has been served. -/
theorem served_of_move {code : κ → Prog S α} {f : σ → ι → (op : S.Op) → Option (S.Ans op × σ)}
    (hm : move code f p m = some (.act i op, p')) : ∃ r s', f p.shared i op = some (r, s') := by
  cases m with
  | call j c =>
      cases hj : p.thread j with
      | some t => simp [move, hj] at hm
      | none => simp [move, hj] at hm
  | go j =>
      match hj : p.thread j with
      | none => simp [move, hj] at hm
      | some ⟨c, .ret a⟩ => simp [move, hj] at hm
      | some ⟨c, .vis op' k⟩ =>
          match hf : f p.shared j op' with
          | none => simp [move, hj, hf] at hm
          | some (r, s') =>
              simp only [move, hj, hf, Option.some.injEq, Prod.mk.injEq, Event.act.injEq] at hm
              obtain ⟨⟨rfl, rfl⟩, _⟩ := hm
              exact ⟨r, s', hf⟩

/-- A move that starts a call is that call's. -/
theorem call_of_move {code : κ → Prog S α} {f : σ → ι → (op : S.Op) → Option (S.Ans op × σ)}
    (hm : move code f p m = some (.call i c, p')) : m = .call i c := by
  cases m with
  | call j c' =>
      cases hj : p.thread j with
      | some t => simp [move, hj] at hm
      | none =>
          simp only [move, hj, Option.some.injEq, Prod.mk.injEq, Event.call.injEq] at hm
          obtain ⟨⟨rfl, rfl⟩, _⟩ := hm
          rfl
  | go j =>
      match hj : p.thread j with
      | none => simp [move, hj] at hm
      | some ⟨c', .ret a⟩ => simp [move, hj] at hm
      | some ⟨c', .vis op k⟩ =>
          match hf : f p.shared j op with
          | none => simp [move, hj, hf] at hm
          | some (r, s') => simp [move, hj, hf] at hm

/-- Follow a script. -/
def follow (code : κ → Prog S α) (f : σ → ι → (op : S.Op) → Option (S.Ans op × σ)) :
    Pool S ι κ α σ → List (Move ι κ) → Option (Pool S ι κ α σ)
  | p, [] => some p
  | p, m :: ms =>
      match move code f p m with
      | none => none
      | some (_, p') => follow code f p' ms

/-- A script whose moves meet the condition leads to a reachable pool. -/
theorem reach_of_follow {code : κ → Prog S α}
    {f : σ → ι → (op : S.Op) → Option (S.Ans op × σ)}
    {h : σ → ι → (op : S.Op) → S.Ans op → σ → Prop} {C : Pool S ι κ α σ → Event S ι κ α → Prop}
    (hf : ∀ s i op r s', f s i op = some (r, s') → h s i op r s')
    (hC : ∀ m ∈ ms, ∀ p e p', move code f p m = some (e, p') → C p e)
    (hr : Reach (Step code h) C p₀ p) (hms : follow code f p ms = some p') :
    Reach (Step code h) C p₀ p' := by
  induction ms generalizing p with
  | nil =>
      obtain rfl : p = p' := by simpa [follow] using hms
      exact hr
  | cons m ms ih =>
      rw [List.forall_mem_cons] at hC
      match hm : move code f p m with
      | none => simp [follow, hm] at hms
      | some (e, p₁) =>
          simp only [follow, hm] at hms
          exact ih hC.2 (hr.step (hC.1 _ _ _ hm) (step_of_move hf hm)) hms

/-- Follow a script and make one more move: the pool before it, what happened, and
the pool after it. -/
def replay (code : κ → Prog S α) (f : σ → ι → (op : S.Op) → Option (S.Ans op × σ))
    (p : Pool S ι κ α σ) (ms : List (Move ι κ)) (m : Move ι κ) :
    Option (Pool S ι κ α σ × Event S ι κ α × Pool S ι κ α σ) :=
  match follow code f p ms with
  | none => none
  | some p =>
      match move code f p m with
      | none => none
      | some (e, p') => some (p, e, p')

/-- A script whose last move passes a test is a run with such a step. -/
theorem run_of_replay {code : κ → Prog S α}
    {f : σ → ι → (op : S.Op) → Option (S.Ans op × σ)}
    {h : σ → ι → (op : S.Op) → S.Ans op → σ → Prop} {C : Pool S ι κ α σ → Event S ι κ α → Prop}
    (hf : ∀ s i op r s', f s i op = some (r, s') → h s i op r s')
    (hC : ∀ m ∈ ms, ∀ p e p', move code f p m = some (e, p') → C p e)
    {test : Pool S ι κ α σ → Event S ι κ α → Pool S ι κ α σ → Bool}
    (ht : (replay code f p₀ ms m).any (fun x => test x.1 x.2.1 x.2.2) = true) :
    ∃ p e p', Reach (Step code h) C p₀ p ∧ Step code h p e p' ∧
      move code f p m = some (e, p') ∧ test p e p' = true := by
  match hms : follow code f p₀ ms with
  | none => simp [replay, hms] at ht
  | some p =>
      match hm : move code f p m with
      | none => simp [replay, hms, hm] at ht
      | some (e, p') =>
          simp only [replay, hms, hm, Option.any_some] at ht
          exact ⟨p, e, p', reach_of_follow hf hC .refl hms, step_of_move hf hm, hm, ht⟩

end Pool

end Interact
