import CanDriver.DeviceRuntime
import CanDriver.Lib.Prog
import CanDriver.SharedDriverState

/-!
# CanDriver.Port

What a protocol object does to the outside, step by step.

A member function of a protocol is a program over `PortOp`: a critical section
on the object's own state, a critical section on the shared driver state, one
submission to the transmit dispatcher, one look at the clock.  Between any two
of them other threads may run.  The same program is run alone by `Port.exec`,
against a dispatcher that takes everything.
-/

namespace CanDriver

open Interact

/-- The operations of a protocol whose own state is `P`. -/
inductive PortOp (P : Type) where
  | proto (f : P → P)
  | shared (f : SharedDriverState → SharedDriverState)
  | submit (r : Request)
  | clock

/-- A critical section answers the state it found. -/
@[reducible] def PortOp.Ans {P : Type} : PortOp P → Type
  | .proto _ => P
  | .shared _ => SharedDriverState
  | .submit _ => Unit
  | .clock => Time

/-- The interface of a protocol. -/
abbrev portSig (P : Type) : Sig := ⟨PortOp P, PortOp.Ans⟩

/-- A protocol program. -/
abbrev Proto (P : Type) (α : Type) := Prog (portSig P) α

namespace Proto

variable {P : Type}

/-- A critical section on the object's own state. -/
def access (f : P → α × P) : Proto P α :=
  Prog.vis (S := portSig P) (.proto fun s => (f s).2) fun s => .ret (f s).1

/-- Change the object's own state. -/
def modify (f : P → P) : Proto P Unit :=
  Prog.vis (S := portSig P) (.proto f) fun _ => .ret ()

/-- Look at the object's own state. -/
def gets (f : P → α) : Proto P α :=
  Prog.vis (S := portSig P) (.proto id) fun s => .ret (f s)

/-- Change the shared driver state. -/
def modifyShared (f : SharedDriverState → SharedDriverState) : Proto P Unit :=
  Prog.vis (S := portSig P) (.shared f) fun _ => .ret ()

/-- Hand a request to the transmit dispatcher. -/
def submit (r : Request) : Proto P Unit :=
  Prog.vis (S := portSig P) (.submit r) fun _ => .ret ()

/-- `steady_clock::now()`. -/
def now : Proto P Time := Prog.vis (S := portSig P) .clock .ret

/-! ### staying within a set of operations -/

section

open Prog

variable {A : PortOp P → Prop} {g : Unit}

@[simp] theorem wp_only_access {f : P → α × P} {Q : α → Unit → Prop} :
    (access f).wp (only A) Q g ↔ A (.proto fun s => (f s).2) ∧ ∀ s, Q (f s).1 () :=
  wp_only_vis _ _

@[simp] theorem wp_only_modify {f : P → P} {Q : Unit → Unit → Prop} :
    (modify f).wp (only A) Q g ↔ A (.proto f) ∧ (P → Q () ()) :=
  wp_only_vis _ _

@[simp] theorem wp_only_gets {f : P → α} {Q : α → Unit → Prop} :
    (gets f).wp (only A) Q g ↔ A (.proto id) ∧ ∀ s, Q (f s) () :=
  wp_only_vis _ _

@[simp] theorem wp_only_modifyShared {f : SharedDriverState → SharedDriverState}
    {Q : Unit → Unit → Prop} :
    (modifyShared f : Proto P Unit).wp (only A) Q g ↔ A (.shared f) ∧ Q () () :=
  (wp_only_vis _ _).trans (and_congr_right fun _ => ⟨fun h => h {}, fun h _ => h⟩)

@[simp] theorem wp_only_submit {r : Request} {Q : Unit → Unit → Prop} :
    (submit r : Proto P Unit).wp (only A) Q g ↔ A (.submit r) ∧ Q () () := by
  simp only [submit, wp_only_vis, wp_ret, forall_const]

@[simp] theorem wp_only_now {Q : Time → Unit → Prop} :
    (now : Proto P Time).wp (only A) Q g ↔ A .clock ∧ ∀ t, Q t () :=
  wp_only_vis _ _

end

end Proto

/-! ## running alone -/

/-- A protocol object with what it works on, and the requests it has handed over. -/
structure Port (P : Type) where
  proto : P
  shared : SharedDriverState
  submitted : List Request
  time : Time

/-- Serve one operation of a protocol nobody else is disturbing. -/
def Port.serve {P : Type} : (op : (portSig P).Op) → Port P → (portSig P).Ans op × Port P
  | .proto f, p => (p.proto, { p with proto := f p.proto })
  | .shared f, p => (p.shared, { p with shared := f p.shared })
  | .submit r, p => ((), { p with submitted := p.submitted ++ [r] })
  | .clock, p => (p.time, p)

/-- Run a protocol program alone. -/
def Proto.exec {P : Type} (prog : Proto P α) (p : Port P) : α × Port P :=
  Prog.eval Port.serve prog p

namespace Proto

variable {P : Type}

@[simp] theorem exec_ret (a : α) (p : Port P) : exec (Prog.ret a) p = (a, p) := rfl

@[simp] theorem exec_pure (a : α) (p : Port P) : exec (pure a) p = (a, p) := rfl

@[simp] theorem exec_bind (prog : Proto P α) (f : α → Proto P β) (p : Port P) :
    exec (prog >>= f) p = exec (f (exec prog p).1) (exec prog p).2 :=
  Prog.eval_bind Port.serve prog f p

@[simp] theorem exec_access (f : P → α × P) (p : Port P) :
    exec (access f) p = ((f p.proto).1, { p with proto := (f p.proto).2 }) := rfl

@[simp] theorem exec_modify (f : P → P) (p : Port P) :
    exec (modify f) p = ((), { p with proto := f p.proto }) := rfl

@[simp] theorem exec_gets (f : P → α) (p : Port P) : exec (gets f) p = (f p.proto, p) := rfl

@[simp] theorem exec_modifyShared (f : SharedDriverState → SharedDriverState) (p : Port P) :
    exec (modifyShared f) p = ((), { p with shared := f p.shared }) := rfl

@[simp] theorem exec_submit (r : Request) (p : Port P) :
    exec (submit r) p = ((), { p with submitted := p.submitted ++ [r] }) := rfl

@[simp] theorem exec_now (p : Port P) : exec now p = (p.time, p) := rfl

end Proto

end CanDriver
