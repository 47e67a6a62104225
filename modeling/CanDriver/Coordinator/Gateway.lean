import CanDriver.Coordinator.FaultRace
import CanDriver.Lib.Record
import CanDriver.LifecycleServiceGateway

/-!
# CanDriver.Coordinator.Gateway

The lifecycle services under concurrent calls.

Services are served by any number of threads, among feedback updates and forced modes, which
land anywhere.  A mode may be gone again when a reply is sent, but a service that reports success
has seen it: `replies_truthful` says that the mode it reports was there while it was served.
-/

namespace CanDriver

open Interact LifecycleServiceGateway

/-! ## the services and the mode they report -/

/-- What is called: a service, or the coordinator directly. -/
inductive GatewayCall where
  | service (s : LifecycleService)
  | coordinator (c : CoordCall)
deriving DecidableEq

/-- The mode a service reports when it is successful. -/
def LifecycleService.target : LifecycleService → SystemOpMode
  | init _ _ => .standby
  | shutdown _ => .configured
  | recover _ => .standby
  | enable => .armed
  | disable => .standby
  | halt => .armed
  | resume => .running

/-- Whether a request is one for the recovery of a single motor. -/
def LifecycleService.perMotor : LifecycleService → Bool
  | recover motorId => motorId ≠ kGlobalRecoverMotorId
  | _ => false

section

variable {D : Sig} {ι : Type} [DecidableEq ι]

/-- The program of a call; only services reply. -/
def GatewayCall.code (ops : DriverOps D) : GatewayCall → Coord D (Option ServiceResponse)
  | service s => do
      let response ← s.code (some ops)
      pure (some response)
  | coordinator c => do
      let _ ← c.code ops
      pure none

/-- The gateway, the coordinator and their callers. -/
abbrev GatewayPool (D : Sig) (ι : Type) :=
  Pool (coordSig D) ι GatewayCall (Option ServiceResponse) (Shared ι)

/-- What happens in one step. -/
abbrev GatewayEvent (D : Sig) (ι : Type) :=
  Event (coordSig D) ι GatewayCall (Option ServiceResponse)

/-- The modes there were since a thread was last called. -/
abbrev ModesSince (ι : Type) := ι → List SystemOpMode

/-- What a step adds to them. -/
def ModesSince.note (p : GatewayPool D ι) (e : GatewayEvent D ι) (p' : GatewayPool D ι)
    (seen : ModesSince ι) : ModesSince ι :=
  match e with
  | .call i _ => Function.update seen i [p.shared.mode]
  | .act _ _ => fun j => p'.shared.mode :: seen j
  | .ret _ _ => seen

/-- One step, and what is recorded of it. -/
abbrev GatewayStep (ops : DriverOps D) :
    GatewayPool D ι × ModesSince ι → GatewayEvent D ι → GatewayPool D ι × ModesSince ι → Prop :=
  Recording (Pool.Step (GatewayCall.code ops) coordAccess) ModesSince.note

end

/-! ## what a call has seen -/

/-- A call notes the modes it reads and stores. -/
def witnessing : Protocol (coordSig D) (List SystemOpMode) where
  allow _ _ := True
  accepts _ _ _ := True
  next seen op r :=
    match op, r with
    | .load, m => m :: seen
    | .store m, _ => m :: seen
    | _, _ => seen

/-- A reply is truthful: a success has seen the mode it reports, and no reply is empty. -/
def Truthful (c : GatewayCall) (response : Option ServiceResponse) (seen : List SystemOpMode) :
    Prop :=
  ∀ s r, c = .service s → response = some r →
    (r.success = true → s.target ∈ seen ∧ s.perMotor = false) ∧ r.message ≠ ""

section

variable {D : Sig} {c : GatewayCall} {seen : List SystemOpMode}

/-! ### its operations -/

theorem witnessing_lock {Q : Unit → List SystemOpMode → Prop} (h : Q () seen) :
    (lock (D := D)).wp witnessing Q seen :=
  ⟨trivial, fun _ _ => h⟩

theorem witnessing_unlock {Q : Unit → List SystemOpMode → Prop} (h : Q () seen) :
    (unlock (D := D)).wp witnessing Q seen :=
  ⟨trivial, fun _ _ => h⟩

theorem witnessing_load {Q : SystemOpMode → List SystemOpMode → Prop}
    (h : ∀ m, Q m (m :: seen)) : (load (D := D)).wp witnessing Q seen :=
  ⟨trivial, fun m _ => h m⟩

theorem witnessing_store {m : SystemOpMode} {Q : Unit → List SystemOpMode → Prop}
    (h : Q () (m :: seen)) : (store (D := D) m).wp witnessing Q seen :=
  ⟨trivial, fun _ _ => h⟩

theorem subset_witnessing_next (seen : List SystemOpMode) (op : ModeOp D) (r : op.Ans) :
    seen ⊆ witnessing.next seen op r := by
  cases op with
  | load => exact List.subset_cons_self _ _
  | store m => exact List.subset_cons_self _ _
  | _ => exact List.Subset.refl _

/-- Whatever it does, a call that acts at all is allowed to, and forgets nothing. -/
theorem witnessing_any (p : Coord D α) (seen : List SystemOpMode) :
    p.wp witnessing (fun _ seen' => seen ⊆ seen') seen := by
  induction p generalizing seen with
  | ret a => exact List.Subset.refl _
  | vis op k ih =>
      refine ⟨trivial, fun r _ => Prog.wp_mono (ih r _) fun _ seen' hseen => ?_⟩
      exact List.Subset.trans (subset_witnessing_next seen op r) hseen

/-! ### its requests -/

/-- A result tells the truth: a success has seen its target, and there is a message. -/
def Result.Truthful (result : Result) (target : SystemOpMode) (seen : List SystemOpMode) : Prop :=
  (result.ok = true → target ∈ seen) ∧ result.message ≠ ""

/-- **Transition**: its result is truthful whatever its action does. -/
theorem witnessing_doTransition {allowedFrom : List SystemOpMode} {target : SystemOpMode}
    {action : Coord D (Bool × String)} :
    (doTransition allowedFrom target action).wp witnessing
      (fun result seen => result.Truthful target seen) seen := by
  rw [doTransition, Prog.wp_bind]
  refine witnessing_lock ?_
  rw [Prog.wp_bind]
  refine witnessing_load fun current => ?_
  rw [Prog.wp_ite]
  split
  · rw [Prog.wp_bind]
    refine Prog.wp_mono (witnessing_any action _) fun answer seen' _ => ?_
    obtain ⟨ok, detail⟩ := answer
    dsimp only
    rw [Prog.wp_ite]
    split
    · rw [Prog.wp_bind]
      refine witnessing_store ?_
      rw [Prog.wp_bind]
      refine witnessing_unlock ⟨fun _ => List.mem_cons_self, ?_⟩
      split
      · simp
      · assumption
    · rw [Prog.wp_bind]
      refine witnessing_unlock ⟨by simp, ?_⟩
      split
      · simp
      · assumption
  · rw [Prog.wp_bind]
    refine witnessing_unlock ?_
    rw [Prog.wp_ite]
    split
    · next htarget => exact ⟨fun _ => by simp [htarget], by simp⟩
    · exact ⟨by simp, by simp⟩

variable {ops : DriverOps D}

/-- Enabling reads the mode twice; a revalidation has seen it `Armed`. -/
theorem witnessing_requestEnable :
    (requestEnable ops).wp witnessing (fun result seen => result.Truthful .armed seen) seen := by
  have htransition : ∀ seen, (doTransition [.standby] .armed (enableAction ops)).wp witnessing
      (fun result seen => result.Truthful .armed seen) seen := fun seen =>
    witnessing_doTransition
  rw [requestEnable, Prog.wp_bind]
  refine witnessing_load fun early => ?_
  rw [Prog.wp_ite]
  split
  · rw [Prog.wp_bind]
    refine witnessing_lock ?_
    rw [Prog.wp_bind]
    refine witnessing_load fun current => ?_
    rw [Prog.wp_ite]
    split
    · next hcurrent =>
      rw [Prog.wp_bind, revalidateArmedEnable, Prog.wp_bind]
      refine Prog.wp_mono (witnessing_any _ _) fun answer seen' hseen => ?_
      obtain ⟨ok, detail⟩ := answer
      have harmed : .armed ∈ seen' := hseen (by simp [hcurrent])
      dsimp only
      rw [Prog.wp_ite]
      split
      · rw [Prog.pure_eq, Prog.wp_ret, Prog.wp_bind]
        exact witnessing_unlock ⟨fun _ => harmed, by simp⟩
      · rw [Prog.pure_eq, Prog.wp_ret, Prog.wp_bind]
        refine witnessing_unlock ⟨by simp, ?_⟩
        split
        · simp
        · assumption
    · rw [Prog.wp_bind]
      exact witnessing_unlock (htransition _)
  · exact htransition _

/-- A request, in the words of a service. -/
theorem witnessing_ask {s : LifecycleService} {request : DriverOps D → Coord D Result}
    {successMessage : Result → String} {fallback : String} (hs : s.perMotor = false)
    (hrequest : (request ops).wp witnessing
      (fun result seen => result.Truthful s.target seen) seen)
    (hmessage : ∀ result : Result, result.message ≠ "" → successMessage result ≠ "") :
    (LifecycleServiceGateway.ask (some ops) request successMessage fallback).wp
      witnessing (fun r seen => Truthful (.service s) (some r) seen) seen := by
  rw [LifecycleServiceGateway.ask, Prog.wp_bind]
  refine Prog.wp_mono hrequest fun result seen' hresult => ?_
  rintro s' r hcall hr
  obtain rfl : s = s' := by simpa using hcall
  obtain rfl := Option.some.inj hr
  refine ⟨fun hok => ⟨hresult.1 hok, hs⟩, ?_⟩
  dsimp only
  split
  · exact hmessage result hresult.2
  · rw [selectFailureMessage, if_neg hresult.2]
    exact hresult.2

theorem selectSuccessMessage_ne {result : Result} {success : String} {already : Option String}
    (hresult : result.message ≠ "") (halready : already ≠ some "") :
    selectSuccessMessage result success already ≠ "" := by
  rw [selectSuccessMessage]
  split
  · cases already with
    | none => exact hresult
    | some text => exact fun htext => halready (by simpa using htext)
  · split
    · assumption
    · exact hresult

/-- **Service**: each of them replies truthfully. -/
theorem witnessing_service (s : LifecycleService) (seen : List SystemOpMode) :
    (s.code (some ops)).wp witnessing
      (fun r seen => Truthful (.service s) (some r) seen) seen := by
  cases s with
  | init device loopback =>
      rw [LifecycleService.code, onInit]
      refine witnessing_ask rfl ?_ fun result hresult =>
        selectSuccessMessage_ne hresult (by simp)
      exact witnessing_doTransition
  | shutdown force =>
      rw [LifecycleService.code, onShutdown]
      refine witnessing_ask rfl ?_ fun result hresult => by simp
      exact witnessing_doTransition
  | recover motorId =>
      rw [LifecycleService.code, onRecover, Prog.wp_ite]
      split
      · rintro s' r hcall hr
        obtain rfl := Option.some.inj hr
        exact ⟨fun hok => absurd hok Bool.false_ne_true, by simp⟩
      · next hmotor =>
        have hglobal : LifecycleService.perMotor (.recover motorId) = false := by
          simpa [LifecycleService.perMotor] using hmotor
        refine witnessing_ask hglobal ?_ fun result hresult =>
          selectSuccessMessage_ne hresult (by simp)
        exact witnessing_doTransition
  | enable =>
      refine witnessing_ask rfl ?_ fun result hresult => selectSuccessMessage_ne hresult (by simp)
      exact witnessing_requestEnable
  | disable =>
      refine witnessing_ask rfl ?_ fun result hresult => selectSuccessMessage_ne hresult (by simp)
      exact witnessing_doTransition
  | halt =>
      refine witnessing_ask rfl ?_ fun result hresult => selectSuccessMessage_ne hresult (by simp)
      exact witnessing_doTransition
  | resume =>
      refine witnessing_ask rfl ?_ fun result hresult => selectSuccessMessage_ne hresult (by simp)
      exact witnessing_doTransition

/-- Every call replies truthfully, those that do not reply at all included. -/
theorem witnessing_code (c : GatewayCall) (seen : List SystemOpMode) :
    (c.code ops).wp witnessing (Truthful c) seen := by
  cases c with
  | service s =>
      rw [GatewayCall.code, Prog.wp_bind]
      exact witnessing_service s seen
  | coordinator c =>
      rw [GatewayCall.code, Prog.wp_bind]
      exact Prog.wp_mono (witnessing_any _ seen) fun _ _ _ s r hcall => by cases hcall

end

/-! ## runs -/

section

variable {D : Sig} {ι : Type} [DecidableEq ι] {ops : DriverOps D}
  {w w' : GatewayPool D ι × ModesSince ι}

/-- Every call has seen only modes that there were while it was served. -/
def Honest (w : GatewayPool D ι × ModesSince ι) : Prop :=
  Pool.Concludes (fun _ => witnessing) Truthful (fun _ _ => True)
    (fun modes i _ seen => seen ⊆ modes i) w.2 w.1

/-- **Step**: that stays so. -/
theorem Honest.step {e : GatewayEvent D ι} (h : Honest w) (hs : GatewayStep ops w e w') :
    Honest w' := by
  obtain ⟨p, modes⟩ := w
  obtain ⟨p', modes'⟩ := w'
  obtain ⟨hs, hmodes⟩ := hs
  have hmodes : modes' = ModesSince.note p e p' modes := hmodes
  subst hmodes
  refine Pool.Concludes.step h ?_ ?_ (fun _ _ _ => trivial) ?_ hs
  · rintro i c rfl _
    exact ⟨trivial, [], List.nil_subset _, witnessing_code c []⟩
  · rintro i c op k seen r s' rfl _ hseen _ hop hp'
    refine ⟨trivial, trivial, ?_⟩
    obtain ⟨hr, rfl⟩ := hop
    have hmode : p'.shared.mode = op.modeAfter p.shared.mode := by rw [hp']; rfl
    have hkept : seen ⊆ p'.shared.mode :: modes i :=
      List.Subset.trans hseen (List.subset_cons_self _ _)
    show witnessing.next seen op r ⊆ p'.shared.mode :: modes i
    cases op with
    | load =>
        have hr : r = p.shared.mode := hr
        exact List.cons_subset.2 ⟨by simp [hmode, hr, ModeOp.modeAfter], hkept⟩
    | store m => exact List.cons_subset.2 ⟨by simp [hmode, ModeOp.modeAfter], hkept⟩
    | _ => exact hkept
  · intro j c seen hj hseen
    cases e with
    | call i c' =>
        have hne : j ≠ i := hj
        simpa [ModesSince.note, Function.update_of_ne hne] using hseen
    | act i op => exact List.Subset.trans hseen (List.subset_cons_self _ _)
    | ret i a => exact hseen

/-- The runs of the gateway and the coordinator from the start of the node on. -/
abbrev GatewayRun (ops : DriverOps D) (w : GatewayPool D ι × ModesSince ι) : Prop :=
  Reach (GatewayStep ops) (fun _ _ => True) (Pool.idle (.initial .inactive), fun _ => []) w

/-- **Run**: it is so in every run. -/
theorem honest_of_run (h : GatewayRun ops w) : Honest w :=
  Reach.invariant (I := Honest) (by exact Pool.Concludes.idle trivial)
    (fun _ _ _ hw _ hs => hw.step hs) h

/-- **Replies**: whatever else is called meanwhile and whatever the driver answers, a service that
replies with success was served while the mode was the one it reports, for a single motor none is
successful, and no reply is without a message. -/
theorem replies_truthful {i : ι} {s : LifecycleService} {response : ServiceResponse}
    (h : GatewayRun ops w) (hcall : w.1.serving i = some (.service s))
    (hs : GatewayStep ops w (.ret i (some response)) w') :
    (response.success = true → s.target ∈ w.2 i ∧ s.perMotor = false) ∧ response.message ≠ "" := by
  obtain ⟨t, ht, hservice⟩ := Option.map_eq_some_iff.1 hcall
  obtain ⟨seen, hseen, htruthful⟩ := (honest_of_run h).ret ht hs.1
  obtain ⟨hsuccess, hmessage⟩ := htruthful s response hservice rfl
  exact ⟨fun hok => ⟨hseen (hsuccess hok).1, (hsuccess hok).2⟩, hmessage⟩

/-! ## a reply that comes late -/

/-- From start-up to `Armed`, then a resume; before it replies, the feedback faults the system. -/
def resumeInterrupted : List (Pool.Move Nat GatewayCall) :=
  Pool.callFor 0 (.coordinator .setConfigured) 2 ++
    Pool.callFor 0 (.service (.init "can0" false)) 5 ++ Pool.callFor 0 (.service .enable) 6 ++
    Pool.callFor 0 (.service .resume) 4 ++
    Pool.callFor 1 (.coordinator (.updateFromFeedback true)) 3

/-- What a thread is about to reply, and to what. -/
def replyOf (w : GatewayPool noSig Nat × ModesSince Nat) (i : Nat) :
    Option (GatewayCall × Option ServiceResponse) :=
  match w.1.thread i with
  | some ⟨c, .ret a⟩ => some (c, a)
  | _ => none

theorem step_of_replyOf (ops : DriverOps noSig) {w : GatewayPool noSig Nat × ModesSince Nat}
    {i : Nat} {c : GatewayCall} {a : Option ServiceResponse} (h : replyOf w i = some (c, a)) :
    w.1.serving i = some c ∧ GatewayStep ops w (.ret i a) (w.1.setThread i none, w.2) := by
  rw [replyOf] at h
  split at h
  · next c' a' hi =>
    obtain ⟨rfl, rfl⟩ := Prod.mk.inj (Option.some.inj h)
    exact ⟨by simp [Pool.serving, hi], .ret w.1 i c' a' hi, rfl⟩
  · cases h

/-- A resume that was overtaken by a fault still replies that the motion was resumed: it was. -/
theorem replies_truthful_faulted :
    ∃ (w : GatewayPool noSig Nat × ModesSince Nat) (response : ServiceResponse),
      GatewayRun promptDriver w ∧ w.1.shared.mode = .faulted ∧ response = ⟨true, "resumed"⟩ ∧
      GatewayStep promptDriver w (.ret 0 (some response)) (w.1.setThread 0 none, w.2) ∧
      .running ∈ w.2 0 := by
  have hscript : (Pool.followNoting (GatewayCall.code promptDriver) Shared.serve ModesSince.note
      (Pool.idle (.initial .inactive), fun _ => []) resumeInterrupted).any (fun w =>
        decide (w.1.shared.mode = .faulted ∧
          replyOf w 0 = some (.service .resume, some ⟨true, "resumed"⟩))) = true := by
    decide +kernel
  obtain ⟨w, hrun, htest⟩ := Pool.exists_of_followNoting (h := coordAccess) (C := fun _ _ => True)
    coordAccess_of_serve (fun _ _ _ _ _ _ => trivial) hscript
  obtain ⟨hfaulted, hreply⟩ := of_decide_eq_true htest
  obtain ⟨hserving, hstep⟩ := step_of_replyOf promptDriver hreply
  have hseen := (replies_truthful hrun hserving hstep).1 rfl
  exact ⟨w, _, hrun, hfaulted, rfl, hstep, hseen.1⟩

end

end CanDriver
