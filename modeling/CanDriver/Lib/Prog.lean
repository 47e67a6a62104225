import Mathlib.Logic.Function.Basic
import Mathlib.Logic.Relation

/-!
# CanDriver.Lib.Prog

Programs as trees of visible operations.

A `Prog S α` performs operations of a signature `S` one after another, each
answered by whoever runs it, and returns an `α`.  The same tree is run in two
ways: alone, against a handler that owns the whole state (`Prog.eval`), or one
operation at a time among other threads (`CanDriver.Lib.Pool`).  Both are
reasoned about with `Prog.wp`, the weakest precondition against a *protocol*:
an automaton over ghost states that says which operations are allowed where,
and where each answer leads.

* `Prog.wp_bind` — the sequencing rule;
* `Prog.wp_mono` — the consequence rule;
* `Prog.wp_of_abstraction` — a coarser protocol in place of a finer one;
* `Prog.wp_of_only` — the frame rule: what every operation preserves is preserved;
* `Prog.wp_mapOp` — what follows a protocol follows it under other names for the operations;
* `Prog.wp_and` — a program that follows two protocols follows both at once;
* `Prog.Runs.of_wp` — the postcondition holds wherever a run ends;
* `Prog.eval_of_wp` — a handler that stays inside the protocol only returns
  values the postcondition admits;
* `Prog.allow_of_trace` — and it only performs operations the protocol allows.
-/

namespace Interact

/-- An interface: its operations, and for each the type of its answers. -/
structure Sig where
  Op : Type
  Ans : Op → Type

/-- A program over the interface `S`. -/
inductive Prog (S : Sig) (α : Type) : Type
  | ret (a : α)
  | vis (op : S.Op) (k : S.Ans op → Prog S α)

namespace Prog

variable {S T : Sig} {α β : Type}

/-- Run `p`, then the program chosen by its result. -/
def bind : Prog S α → (α → Prog S β) → Prog S β
  | ret a, f => f a
  | vis op k, f => vis op fun r => (k r).bind f

instance : Monad (Prog S) where
  pure := ret
  bind := bind

/-- Perform one operation and return its answer. -/
def perform (op : S.Op) : Prog S (S.Ans op) := vis op ret

@[simp] theorem pure_eq (a : α) : (pure a : Prog S α) = ret a := rfl

@[simp] theorem ret_bind (a : α) (f : α → Prog S β) : (ret a >>= f) = f a := rfl

@[simp] theorem vis_bind (op : S.Op) (k : S.Ans op → Prog S α) (f : α → Prog S β) :
    (vis op k >>= f) = vis op fun r => k r >>= f := rfl

@[simp] theorem perform_bind (op : S.Op) (f : S.Ans op → Prog S β) :
    (perform op >>= f) = vis op f := rfl

/-- Rename the operations of a program along `f`, whose answers agree. -/
def mapOp (f : T.Op → S.Op) (g : ∀ op, S.Ans (f op) → T.Ans op) : Prog T α → Prog S α
  | ret a => ret a
  | vis op k => vis (f op) fun r => (k (g op r)).mapOp f g

/-- Serve every operation of a program by a program over another interface. -/
def interp (f : (op : T.Op) → Prog S (T.Ans op)) : Prog T α → Prog S α
  | ret a => ret a
  | vis op k => f op >>= fun r => (k r).interp f

@[simp] theorem interp_ret (f : (op : T.Op) → Prog S (T.Ans op)) (a : α) :
    (ret a : Prog T α).interp f = ret a := rfl

@[simp] theorem interp_vis (f : (op : T.Op) → Prog S (T.Ans op)) (op : T.Op)
    (k : T.Ans op → Prog T α) : (vis op k).interp f = f op >>= fun r => (k r).interp f := rfl

theorem bind_assoc {γ : Type} (p : Prog S α) (f : α → Prog S β) (g : β → Prog S γ) :
    (p >>= f) >>= g = p >>= fun a => f a >>= g := by
  induction p with
  | ret a => rfl
  | vis op k ih =>
      simp only [vis_bind]
      exact congrArg (vis op) (funext ih)

@[simp] theorem interp_bind (f : (op : T.Op) → Prog S (T.Ans op)) (p : Prog T α)
    (g : α → Prog T β) : (p >>= g).interp f = p.interp f >>= fun a => (g a).interp f := by
  induction p with
  | ret a => rfl
  | vis op k ih => simp only [vis_bind, interp_vis, ih, bind_assoc]

/-! ## running alone -/

/-- Run a program to its end against a handler that owns the state. -/
def eval (h : (op : S.Op) → σ → S.Ans op × σ) : Prog S α → σ → α × σ
  | ret a, s => (a, s)
  | vis op k, s => (k (h op s).1).eval h (h op s).2

@[simp] theorem eval_ret (h : (op : S.Op) → σ → S.Ans op × σ) (a : α) (s : σ) :
    (ret a).eval h s = (a, s) := rfl

@[simp] theorem eval_vis (h : (op : S.Op) → σ → S.Ans op × σ) (op : S.Op)
    (k : S.Ans op → Prog S α) (s : σ) :
    (vis op k).eval h s = (k (h op s).1).eval h (h op s).2 := rfl

@[simp] theorem eval_bind (h : (op : S.Op) → σ → S.Ans op × σ) (p : Prog S α)
    (f : α → Prog S β) (s : σ) :
    (p >>= f).eval h s = (f (p.eval h s).1).eval h (p.eval h s).2 := by
  induction p generalizing s with
  | ret a => rfl
  | vis op k ih => exact ih (h op s).1 (h op s).2

/-- Where the first program ends, the rest begins. -/
theorem eval_bind_of {h : (op : S.Op) → σ → S.Ans op × σ} {p : Prog S α} {f : α → Prog S β}
    (hp : p.eval h s = (a, s')) : (p >>= f).eval h s = (f a).eval h s' := by
  rw [eval_bind, hp]

/-- A program with renamed operations runs inside a larger state, of which `emb` puts the
state of its own handler in place. -/
theorem eval_mapOp {f : T.Op → S.Op} {g : ∀ op, S.Ans (f op) → T.Ans op}
    {h : (op : S.Op) → σ → S.Ans op × σ} {h' : (op : T.Op) → τ → T.Ans op × τ} (emb : τ → σ)
    (hf : ∀ op t, g op (h (f op) (emb t)).1 = (h' op t).1 ∧
      (h (f op) (emb t)).2 = emb (h' op t).2) (p : Prog T α) (t : τ) :
    (p.mapOp f g).eval h (emb t) = ((p.eval h' t).1, emb (p.eval h' t).2) := by
  induction p generalizing t with
  | ret a => rfl
  | vis op k ih =>
      obtain ⟨hanswer, hstate⟩ := hf op t
      rw [mapOp, eval_vis, hstate, hanswer, ih]
      rfl

/-- The operations a run performs, each with the answer it got. -/
def trace (h : (op : S.Op) → σ → S.Ans op × σ) : Prog S α → σ → List (Σ op, S.Ans op)
  | ret _, _ => []
  | vis op k, s => ⟨op, (h op s).1⟩ :: (k (h op s).1).trace h (h op s).2

end Prog

/-! ## protocols -/

/-- A protocol over ghost states `γ`: which operations a thread in a ghost
state may perform, which answers it has to be prepared for, and where each of
them leads. -/
structure Protocol (S : Sig) (γ : Type) where
  allow : γ → S.Op → Prop
  accepts : γ → (op : S.Op) → S.Ans op → Prop
  next : γ → (op : S.Op) → S.Ans op → γ

/-- Two protocols at once: what both allow, when both account for the answers. -/
def Protocol.and {γ δ : Type} (P : Protocol S γ) (P' : Protocol S δ) : Protocol S (γ × δ) where
  allow g op := P.allow g.1 op ∧ P'.allow g.2 op
  accepts g op r := P.accepts g.1 op r ∧ P'.accepts g.2 op r
  next g op r := (P.next g.1 op r, P'.next g.2 op r)

/-- The ghost state after the operations of a trace. -/
def Protocol.after (P : Protocol S γ) (g : γ) (tr : List (Σ op, S.Ans op)) : γ :=
  tr.foldl (fun g e => P.next g e.1 e.2) g

namespace Prog

variable {S : Sig} {α β γ : Type}

/-- Every operation of `p` run from the ghost state `g` is allowed by the
protocol, and a result is returned only where `Q` holds. -/
def wp (P : Protocol S γ) : Prog S α → (α → γ → Prop) → γ → Prop
  | ret a, Q, g => Q a g
  | vis op k, Q, g => P.allow g op ∧ ∀ r, P.accepts g op r → (k r).wp P Q (P.next g op r)

variable {P : Protocol S γ} {Q Q' : α → γ → Prop} {g : γ}

theorem wp_ite (c : Prop) [Decidable c] (p q : Prog S α) :
    (if c then p else q).wp P Q g ↔ if c then p.wp P Q g else q.wp P Q g := by
  split <;> rfl

@[simp] theorem wp_ret (a : α) : (ret a : Prog S α).wp P Q g ↔ Q a g := Iff.rfl

@[simp] theorem wp_vis (op : S.Op) (k : S.Ans op → Prog S α) :
    (vis op k).wp P Q g ↔
      P.allow g op ∧ ∀ r, P.accepts g op r → (k r).wp P Q (P.next g op r) :=
  Iff.rfl

/-- **Consequence**: a weaker postcondition is reached as well. -/
theorem wp_mono {p : Prog S α} (h : p.wp P Q g) (hQ : ∀ a g, Q a g → Q' a g) :
    p.wp P Q' g := by
  induction p generalizing g with
  | ret a => exact hQ a g h
  | vis op k ih => exact ⟨h.1, fun r hr => ih r (h.2 r hr)⟩

/-- **Sequencing**: prove the first program for the precondition of the rest. -/
theorem wp_bind {p : Prog S α} {f : α → Prog S β} {R : β → γ → Prop} :
    (p >>= f).wp P R g ↔ p.wp P (fun a g => (f a).wp P R g) g := by
  induction p generalizing g with
  | ret a => exact Iff.rfl
  | vis op k ih =>
      simp only [vis_bind, wp_vis]
      exact and_congr_right fun _ => forall_congr' fun r => imp_congr_right fun _ => ih r

/-! ## abstraction -/

/-- **Abstraction**: what is proved against a coarser protocol holds of a finer one,
wherever the coarser one accounts for every answer. -/
theorem wp_of_abstraction {δ : Type} {P' : Protocol S δ} {R : γ → δ → Prop} {Q : α → δ → Prop}
    {p : Prog S α} {d : δ}
    (hR : ∀ g d op, R g d → P'.allow d op → P.allow g op ∧
      ∀ r, P.accepts g op r → P'.accepts d op r ∧ R (P.next g op r) (P'.next d op r))
    (h : R g d) (hp : p.wp P' Q d) : p.wp P (fun a g => ∃ d, R g d ∧ Q a d) g := by
  induction p generalizing g d with
  | ret a => exact ⟨d, h, hp⟩
  | vis op k ih =>
      obtain ⟨hallow, hnext⟩ := hR g d op h hp.1
      refine ⟨hallow, fun r hr => ?_⟩
      obtain ⟨haccepts, h'⟩ := hnext r hr
      exact ih r h' (hp.2 r haccepts)

/-- The protocol that allows the operations in `A`, whatever is answered. -/
def only (A : S.Op → Prop) : Protocol S Unit where
  allow _ op := A op
  accepts _ _ _ := True
  next _ _ _ := ()

@[simp] theorem only_allow {A : S.Op → Prop} (g : Unit) (op : S.Op) :
    (only A).allow g op ↔ A op := Iff.rfl

@[simp] theorem only_accepts {A : S.Op → Prop} (g : Unit) (op : S.Op) (r : S.Ans op) :
    (only A).accepts g op r ↔ True := Iff.rfl

@[simp] theorem only_next {A : S.Op → Prop} (g : Unit) (op : S.Op) (r : S.Ans op) :
    (only A).next g op r = () := rfl

theorem wp_only_vis {A : S.Op → Prop} {Q : α → Unit → Prop} {g : Unit} (op : S.Op)
    (k : S.Ans op → Prog S α) :
    (vis op k).wp (only A) Q g ↔ A op ∧ ∀ r, (k r).wp (only A) Q () := by
  simp [only]

theorem wp_only_of_forall {A : S.Op → Prop} (hA : ∀ op, A op) (p : Prog S α) :
    p.wp (only A) (fun _ _ => True) () := by
  induction p with
  | ret a => trivial
  | vis op k ih => exact ⟨hA op, fun r _ => ih r⟩

/-- **Frame**: what every operation of the program preserves, the program preserves. -/
theorem wp_of_only {A : S.Op → Prop} {I : γ → Prop} {R : α → Prop} {p : Prog S α}
    (hp : p.wp (only A) (fun a _ => R a) ())
    (hI : ∀ g op, I g → A op → P.allow g op ∧ ∀ r, P.accepts g op r → I (P.next g op r))
    (hg : I g) : p.wp P (fun a g => R a ∧ I g) g := by
  have h := wp_of_abstraction (P := P) (R := fun g _ => I g)
    (fun g _ op hg hA => ⟨(hI g op hg hA).1, fun r hr => ⟨trivial, (hI g op hg hA).2 r hr⟩⟩) hg hp
  exact wp_mono h fun a g ⟨_, hg, ha⟩ => ⟨ha, hg⟩

/-- A program stays within `A` if the programs that serve its operations do. -/
theorem wp_only_interp {A' : T.Op → Prop} {A : S.Op → Prop} {R : α → Prop}
    {f : (op : T.Op) → Prog S (T.Ans op)} {p : Prog T α}
    (hf : ∀ op, A' op → (f op).wp (only A) (fun _ _ => True) ())
    (hp : p.wp (only A') (fun a _ => R a) ()) :
    (p.interp f).wp (only A) (fun a _ => R a) () := by
  induction p with
  | ret a => exact hp
  | vis op k ih =>
      rw [wp_only_vis] at hp
      rw [interp_vis, wp_bind]
      exact wp_mono (hf op hp.1) fun r _ _ => ih r (hp.2 r)

/-- **Refinement**: the programs that serve the operations do what the protocol above
admits, in ghost states related by `R`; then so does the whole program. -/
theorem wp_interp {δ : Type} {P' : Protocol T δ} {R : γ → δ → Prop} {Q : α → δ → Prop}
    {f : (op : T.Op) → Prog S (T.Ans op)} {p : Prog T α} {d : δ}
    (hf : ∀ g d op, R g d → P'.allow d op →
      (f op).wp P (fun r g => P'.accepts d op r ∧ R g (P'.next d op r)) g)
    (h : R g d) (hp : p.wp P' Q d) : (p.interp f).wp P (fun a g => ∃ d, R g d ∧ Q a d) g := by
  induction p generalizing g d with
  | ret a => exact ⟨d, h, hp⟩
  | vis op k ih =>
      rw [interp_vis, wp_bind]
      refine wp_mono (hf g d op h hp.1) fun r g hr => ?_
      exact ih r hr.2 (hp.2 r hr.1)

/-- Every operation of the program is in `A`, whatever is answered. -/
abbrev Stays (A : S.Op → Prop) (p : Prog S α) : Prop := p.wp (only A) (fun _ _ => True) ()

theorem Stays.bind {A : S.Op → Prop} {p : Prog S α} {f : α → Prog S β} (hp : p.Stays A)
    (hf : ∀ a, (f a).Stays A) : (p >>= f).Stays A :=
  wp_bind.2 (wp_mono hp fun a _ _ => hf a)

theorem Stays.vis {A : S.Op → Prop} {op : S.Op} {k : S.Ans op → Prog S α} (hop : A op)
    (hk : ∀ r, (k r).Stays A) : (Prog.vis op k).Stays A :=
  ⟨hop, fun r _ => hk r⟩

theorem Stays.ite {A : S.Op → Prop} {c : Prop} [Decidable c] {p q : Prog S α} (hp : p.Stays A)
    (hq : q.Stays A) : (if c then p else q).Stays A := by
  split
  · exact hp
  · exact hq

theorem Stays.mono {A A' : S.Op → Prop} {p : Prog S α} (hp : p.Stays A)
    (hA : ∀ op, A op → A' op) : p.Stays A' := by
  induction p with
  | ret a => trivial
  | vis op k ih => exact ⟨hA op hp.1, fun r _ => ih r (hp.2 r trivial)⟩

theorem Stays.and {A A' : S.Op → Prop} {p : Prog S α} (hp : p.Stays A) (hp' : p.Stays A') :
    p.Stays fun op => A op ∧ A' op := by
  induction p with
  | ret a => trivial
  | vis op k ih => exact ⟨⟨hp.1, hp'.1⟩, fun r hr => ih r (hp.2 r hr) (hp'.2 r hr)⟩

/-- A program whose operations are always allowed obeys the protocol. -/
theorem Stays.wp {P : Protocol S γ} {p : Prog S α} (hp : p.Stays fun op => ∀ g, P.allow g op) :
    p.wp P (fun _ _ => True) g := by
  induction p generalizing g with
  | ret a => trivial
  | vis op k ih => exact ⟨hp.1 g, fun r _ => ih r (hp.2 r trivial)⟩

/-! ## renamed operations -/

/-- **Renaming**: what follows a protocol follows one that agrees with it on the renamed
operations. -/
theorem wp_mapOp {f : T.Op → S.Op} {h : ∀ op, S.Ans (f op) → T.Ans op} {P' : Protocol T γ}
    {P : Protocol S γ} {Q : α → γ → Prop} {g : γ} {p : Prog T α}
    (hallow : ∀ g op, P'.allow g op → P.allow g (f op))
    (hnext : ∀ g op r, P.accepts g (f op) r →
      P'.accepts g op (h op r) ∧ P.next g (f op) r = P'.next g op (h op r))
    (hp : p.wp P' Q g) : (p.mapOp f h).wp P Q g := by
  induction p generalizing g with
  | ret a => exact hp
  | vis op k ih =>
      refine ⟨hallow g op hp.1, fun r hr => ?_⟩
      obtain ⟨haccepts, heq⟩ := hnext g op r hr
      rw [heq]
      exact ih _ (hp.2 _ haccepts)

theorem Stays.mapOp {A : S.Op → Prop} {f : T.Op → S.Op} {h : ∀ op, S.Ans (f op) → T.Ans op}
    {p : Prog T α} (hp : p.Stays fun op => A (f op)) : (p.mapOp f h).Stays A :=
  wp_mapOp (fun _ _ hop => hop) (fun _ _ _ _ => ⟨trivial, rfl⟩) hp

/-! ## two protocols at once -/

/-- **Conjunction**: a program that follows two protocols follows both at once. -/
theorem wp_and {δ : Type} {P' : Protocol S δ} {R : α → δ → Prop} {p : Prog S α} {d : δ}
    (hp : p.wp P Q g) (hp' : p.wp P' R d) :
    p.wp (P.and P') (fun a g => Q a g.1 ∧ R a g.2) (g, d) := by
  induction p generalizing g d with
  | ret a => exact ⟨hp, hp'⟩
  | vis op k ih =>
      refine ⟨⟨hp.1, hp'.1⟩, fun r hr => ?_⟩
      exact ih r (hp.2 r hr.1) (hp'.2 r hr.2)

/-! ## protocols obeyed from everywhere -/

/-- The program obeys the protocol from whatever ghost state it starts in. -/
abbrev Upholds (P : Protocol S γ) (p : Prog S α) : Prop := ∀ g, p.wp P (fun _ _ => True) g

theorem Upholds.bind {p : Prog S α} {f : α → Prog S β} (hp : p.Upholds P)
    (hf : ∀ a, (f a).Upholds P) : (p >>= f).Upholds P := by
  intro g
  rw [wp_bind]
  exact wp_mono (hp g) fun a g' _ => hf a g'

theorem Upholds.vis {op : S.Op} {k : S.Ans op → Prog S α} (hop : ∀ g, P.allow g op)
    (hk : ∀ r, (k r).Upholds P) : (Prog.vis op k).Upholds P :=
  fun g => ⟨hop g, fun r _ => hk r _⟩

/-! ## protocols without ghost state -/

/-- Every operation of the program is allowed, whatever is admitted as its answer. -/
abbrev Obeys (P : Protocol S Unit) (p : Prog S α) : Prop := p.wp P (fun _ _ => True) ()

theorem Obeys.bind {P : Protocol S Unit} {p : Prog S α} {f : α → Prog S β} (hp : p.Obeys P)
    (hf : ∀ a, (f a).Obeys P) : (p >>= f).Obeys P :=
  wp_bind.2 (wp_mono hp fun a _ _ => hf a)

theorem Obeys.vis {P : Protocol S Unit} {op : S.Op} {k : S.Ans op → Prog S α} (hop : P.allow () op)
    (hk : ∀ r, P.accepts () op r → (k r).Obeys P) : (Prog.vis op k).Obeys P :=
  ⟨hop, hk⟩

theorem Obeys.ite {P : Protocol S Unit} {c : Prop} [Decidable c] {p q : Prog S α} (hp : p.Obeys P)
    (hq : q.Obeys P) : (if c then p else q).Obeys P := by
  split
  · exact hp
  · exact hq

/-- A program whose operations are all allowed obeys the protocol. -/
theorem Stays.obeys {P : Protocol S Unit} {p : Prog S α} (hp : p.Stays (P.allow ())) :
    p.Obeys P := by
  induction p with
  | ret a => trivial
  | vis op k ih => exact ⟨hp.1, fun r _ => ih r (hp.2 r trivial)⟩

theorem Obeys.discard {P : Protocol S Unit} {p : Prog S α} (hp : p.Obeys P) :
    (discard p).Obeys P :=
  hp.bind (f := fun _ => ret ()) fun _ => trivial

/-- **Refinement**: a program obeys the protocol of the interface below if the programs
that serve its operations do, and answer what the protocol above admits. -/
theorem Obeys.interp {P : Protocol S Unit} {P' : Protocol T Unit}
    {f : (op : T.Op) → Prog S (T.Ans op)} {p : Prog T α}
    (hf : ∀ op, P'.allow () op → (f op).wp P (fun r _ => P'.accepts () op r) ()) (hp : p.Obeys P') :
    (p.interp f).Obeys P := by
  induction p with
  | ret a => trivial
  | vis op k ih =>
      rw [interp_vis, Obeys, wp_bind]
      exact wp_mono (hf op hp.1) fun r _ hr => ih r (hp.2 r hr)

/-! ## runs -/

/-- The program may run from `g` to the result `a` and the ghost state `g'`. -/
inductive Runs (P : Protocol S γ) : Prog S α → γ → α → γ → Prop
  | ret (a : α) (g : γ) : Runs P (.ret a) g a g
  | vis (op : S.Op) (k : S.Ans op → Prog S α) (r : S.Ans op) (g : γ) (a : α) (g' : γ)
      (hr : P.accepts g op r) (hk : Runs P (k r) (P.next g op r) a g') : Runs P (.vis op k) g a g'

/-- **Run**: a run ends where the postcondition holds. -/
theorem Runs.of_wp {p : Prog S α} (h : Runs P p g a g') (hp : p.wp P Q g) : Q a g' := by
  induction h with
  | ret a g => exact hp
  | vis op k r g a g' hr hk ih => exact ih (hp.2 r hr)

/-- A run of two programs in sequence is a run of each. -/
theorem runs_bind {p : Prog S α} {f : α → Prog S β} :
    Runs P (p >>= f) g b g' ↔ ∃ a g₁, Runs P p g a g₁ ∧ Runs P (f a) g₁ b g' := by
  induction p generalizing g with
  | ret a =>
      constructor
      · intro h
        exact ⟨a, g, .ret a g, h⟩
      · rintro ⟨_, _, ⟨⟩, h⟩
        exact h
  | vis op k ih =>
      constructor
      · intro h
        cases h with
        | vis _ _ r _ _ _ hr hk =>
            obtain ⟨a, g₁, h₁, h₂⟩ := ih r |>.1 hk
            exact ⟨a, g₁, .vis op k r g a g₁ hr h₁, h₂⟩
      · rintro ⟨a, g₁, h₁, h₂⟩
        cases h₁ with
        | vis _ _ r _ _ _ hr hk => exact .vis op _ r g b g' hr ((ih r).2 ⟨a, g₁, hk, h₂⟩)

/-- Where every operation has an answer, a program runs to its end. -/
theorem exists_runs (h : ∀ g op, ∃ r, P.accepts g op r) (p : Prog S α) (g : γ) :
    ∃ a g', Runs P p g a g' := by
  induction p generalizing g with
  | ret a => exact ⟨a, g, .ret a g⟩
  | vis op k ih =>
      obtain ⟨r, hr⟩ := h g op
      obtain ⟨a, g', hk⟩ := ih r (P.next g op r)
      exact ⟨a, g', .vis op k r g a g' hr hk⟩

/-- Run a program, with `f` choosing the answers. -/
def run (P : Protocol S γ) (f : γ → (op : S.Op) → Option (S.Ans op)) :
    Prog S α → γ → Option (α × γ)
  | ret a, g => some (a, g)
  | vis op k, g =>
      match f g op with
      | none => none
      | some r => (k r).run P f (P.next g op r)

/-- Chosen answers that are admitted make a run. -/
theorem runs_of_run {f : γ → (op : S.Op) → Option (S.Ans op)}
    (hf : ∀ g op r, f g op = some r → P.accepts g op r) {p : Prog S α}
    (h : p.run P f g = some (a, g')) : Runs P p g a g' := by
  induction p generalizing g with
  | ret b =>
      simp only [run, Option.some.injEq, Prod.mk.injEq] at h
      obtain ⟨rfl, rfl⟩ := h
      exact .ret _ _
  | vis op k ih =>
      match hr : f g op with
      | none => simp [run, hr] at h
      | some r =>
          simp only [run, hr] at h
          exact .vis op k r g a g' (hf g op r hr) (ih r h)

/-! ## protocols and handlers -/

/-- A handler simulates a protocol through `R`: in related states it answers
an allowed operation as the protocol admits, and stays related. -/
def Simulates (h : (op : S.Op) → σ → S.Ans op × σ) (P : Protocol S γ)
    (R : σ → γ → Prop) : Prop :=
  ∀ op s g, R s g → P.allow g op → P.accepts g op (h op s).1 ∧ R (h op s).2 (P.next g op (h op s).1)

variable {h : (op : S.Op) → σ → S.Ans op × σ} {R : σ → γ → Prop}

/-- **Run alone**: a handler that simulates the protocol ends where the
postcondition holds, in the ghost state its trace leads to. -/
theorem eval_of_wp (hh : Simulates h P R) {p : Prog S α} {s : σ} (hR : R s g)
    (hp : p.wp P Q g) :
    Q (p.eval h s).1 (P.after g (p.trace h s)) ∧ R (p.eval h s).2 (P.after g (p.trace h s)) := by
  induction p generalizing s g with
  | ret a => exact ⟨hp, hR⟩
  | vis op k ih =>
      obtain ⟨haccepts, hR'⟩ := hh op s g hR hp.1
      exact ih _ hR' (hp.2 _ haccepts)

/-- **Trace**: whatever operation such a run performs was allowed where it was
performed. -/
theorem allow_of_trace (hh : Simulates h P R) {p : Prog S α} {s : σ} (hR : R s g)
    (hp : p.wp P Q g) (htr : p.trace h s = pre ++ ⟨op, r⟩ :: post) :
    P.allow (P.after g pre) op := by
  induction p generalizing s g pre with
  | ret a => simp [trace] at htr
  | vis op' k ih =>
      obtain ⟨haccepts, hR'⟩ := hh op' s g hR hp.1
      cases pre with
      | nil =>
          simp only [trace, List.nil_append, List.cons.injEq, Sigma.mk.injEq] at htr
          obtain ⟨⟨rfl, _⟩, _⟩ := htr
          exact hp.1
      | cons e pre =>
          simp only [trace, List.cons_append, List.cons.injEq] at htr
          obtain ⟨rfl, htr⟩ := htr
          have hallow := ih _ hR' (hp.2 _ haccepts) htr
          exact hallow

end Prog

end Interact
