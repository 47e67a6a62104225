import CanDriver.BusCall
import CanDriver.Lib.Record

/-!
# CanDriver.Feedback.RegisterAcks

Acknowledgements of DM register writes, and what they do to the cached state of the motors.

An acknowledgement comes under the same CAN id as feedback and is recognised by the write that
waits for it.  The wait forgets the write when its time is up; an acknowledgement that comes
later falls through to the decoding of feedback, its register number and value are read as a
velocity and a torque, and a motor whose number is in the low half of its first byte gets them.
Acknowledgements that find their write, or no such motor, leave every cached state alone.
-/

namespace CanDriver

open Interact Prog

/-! ## the handling of an acknowledgement -/

/-- A register acknowledgement, as `handleResponse` tells it from feedback. -/
def DamiaoCan.isRegisterAck (frame : Frame) : Bool :=
  frame.id == kDamiaoMasterId && decide (8 ≤ frame.dlc) && frame.byte 1 == 0 &&
    frame.byte 2 == kDamiaoWriteRegisterCommand

/-- The motor that an acknowledgement would be feedback of. -/
def DamiaoCan.feedbackNode (frame : Frame) : UInt8 := frame.byte 0 &&& 0x0F

/-- The register acknowledgement that a call handles. -/
def BusCall.registerAck : BusCall → Option Frame
  | .dmReceive frame => if DamiaoCan.isRegisterAck frame then some frame else none
  | _ => none

/-- How far the handling of an acknowledgement is: just received, without a write that waits
for it, or through. -/
inductive AckStage where
  | received | unmatched | settled
deriving DecidableEq, Repr

/-- The object is looked at: for the write first, then for the motor. -/
def AckStage.look (frame : Frame) (s : DamiaoCan) : AckStage → AckStage
  | .received =>
      if (s.pendingRegisterAcks (frame.byte 0, frame.byte 3)).isSome then .settled else .unmatched
  | .unmatched | .settled => .settled

/-- The state of the DM object that an operation answers. -/
def BusOp.dmState : (op : BusOp) → op.Ans → Option DamiaoCan
  | .dm _, s => some s
  | _, _ => none

/-- An operation on the DM object that leaves the cached states alone. -/
def BusOp.LeavesStates : BusOp → Prop
  | .dm f => ∀ s, (f s).motorStates = s.motorStates
  | _ => False

/-- What the handling of an acknowledgement may do, if no motor is found for an unmatched
one.  Other calls do what they like. -/
def ackRules (c : BusCall) : Protocol busSig AckStage where
  allow g op := ∀ frame, c.registerAck = some frame → g ≠ .settled ∧ op.LeavesStates
  accepts g op r := ∀ frame s, c.registerAck = some frame → op.dmState r = some s →
    g = .unmatched → s.isManagedMotorId (DamiaoCan.feedbackNode frame) = false
  next g op r :=
    match c.registerAck, op.dmState r with
    | some frame, some s => g.look frame s
    | _, _ => g

theorem wp_of_no_ack {c : BusCall} (hc : c.registerAck = none) (p : BusProg α) (g : AckStage) :
    p.wp (ackRules c) (fun _ _ => True) g := by
  induction p generalizing g with
  | ret a => trivial
  | vis op k ih => exact ⟨fun frame h => absurd (hc.symm.trans h) (by simp), fun r _ => ih r _⟩

namespace DamiaoCan

theorem matchRegisterAck_states (frame : Frame) (s : DamiaoCan) :
    (matchRegisterAck frame s).2.motorStates = s.motorStates := by
  unfold matchRegisterAck
  dsimp only
  split <;> rfl

theorem matchRegisterAck_fst (frame : Frame) (s : DamiaoCan) :
    (matchRegisterAck frame s).1 =
      (s.pendingRegisterAcks (frame.byte 0, frame.byte 3)).isSome := by
  unfold matchRegisterAck
  dsimp only
  split
  · next h => rw [h, Option.isSome_none]
  · next h => rw [h, Option.isSome_some]

theorem handleResponse_of_ack {frame : Frame} (h : isRegisterAck frame = true) :
    handleResponse frame = (Proto.access (matchRegisterAck frame) >>= fun matched =>
      if matched then pure () else handleFeedback frame) := by
  simp only [isRegisterAck, Bool.and_eq_true, beq_iff_eq, decide_eq_true_eq] at h
  rw [handleResponse, if_neg (not_not.2 h.1.1.1), if_pos ⟨h.1.1.2, h.1.2, h.2⟩]

/-- **Handling**: an acknowledgement is handed to its write; without one the motor is looked up,
and not found. -/
theorem handleResponse_leaves {frame : Frame} (h : isRegisterAck frame = true) :
    (Proto.onBus (handleResponse frame)).wp (ackRules (.dmReceive frame)) (fun _ _ => True)
      .received := by
  have hack : (BusCall.dmReceive frame).registerAck = some frame := if_pos h
  have hdlc : ¬ frame.dlc < 8 := by
    simp only [isRegisterAck, Bool.and_eq_true, decide_eq_true_eq] at h
    exact Nat.not_lt.2 h.1.1.2
  rw [handleResponse_of_ack h, Proto.onBus_bind, wp_bind]
  refine ⟨fun _ _ => ⟨by decide, matchRegisterAck_states frame⟩, fun s _ => ?_⟩
  have hnext : (ackRules (.dmReceive frame)).next .received (BusOp.dm _) s =
      AckStage.look frame s .received := by
    simp only [ackRules, hack, BusOp.dmState]
  rw [hnext]
  change (Proto.onBus (if (matchRegisterAck frame s).1 then pure () else handleFeedback frame)).wp
    _ _ _
  rw [matchRegisterAck_fst, AckStage.look]
  cases hpending : (s.pendingRegisterAcks (frame.byte 0, frame.byte 3)).isSome with
  | true => trivial
  | false =>
      simp only [Bool.false_eq_true, ↓reduceIte, handleFeedback, if_neg hdlc, Proto.onBus_bind]
      rw [wp_bind]
      refine ⟨fun _ _ => ⟨by decide, fun _ => rfl⟩, fun s' haccepts => ?_⟩
      have hunknown := haccepts frame s' hack rfl rfl
      change (Proto.onBus (if s'.isManagedMotorId (feedbackNode frame) then _ else _)).wp _ _ _
      rw [hunknown]
      trivial

end DamiaoCan

theorem ackRules_code (cfg : DeviceManagerConfig) (deviceName : String) (c : BusCall) :
    (c.code cfg deviceName).wp (ackRules c) (fun _ _ => True) .received := by
  cases hack : c.registerAck with
  | none => exact wp_of_no_ack hack _ _
  | some frame =>
      cases c with
      | dmReceive frame' =>
          obtain ⟨h, -⟩ := (Option.ite_none_right_eq_some).1 hack
          exact DamiaoCan.handleResponse_leaves h
      | _ => cases hack

/-! ## the runs of a device -/

section

variable {ι : Type} [DecidableEq ι]

/-- The acknowledgement that a thread is handling. -/
def ackOf (p : BusPool ι) (i : ι) : Option Frame := (p.thread i).bind fun t => t.call.registerAck

/-- How far each thread is with its acknowledgement. -/
abbrev AckLog (ι : Type) := ι → AckStage

/-- A call starts with the frame just received; looks at the object are noted. -/
def noteAck (p : BusPool ι) (e : BusEvent ι) (_ : BusPool ι) (log : AckLog ι) : AckLog ι :=
  match e with
  | .call i _ => Function.update log i .received
  | .act i (.dm _) =>
      match ackOf p i with
      | some frame => Function.update log i (AckStage.look frame p.shared.dm (log i))
      | none => log
  | _ => log

/-- A step on the device, with how far each acknowledgement is. -/
abbrev AckStep (cfg : DeviceManagerConfig) (deviceName : String) :
    BusPool ι × AckLog ι → BusEvent ι → BusPool ι × AckLog ι → Prop :=
  Recording (BusStep cfg deviceName) noteAck

/-- Whenever no write waits for an acknowledgement, it names no motor of the device: when the
object is looked at for the motor, there is none. -/
def AcksExpected (w : BusPool ι × AckLog ι) (e : BusEvent ι) : Prop :=
  ∀ i f frame, e = .act i (.dm f) → ackOf w.1 i = some frame → w.2 i = .unmatched →
    w.1.shared.dm.isManagedMotorId (DamiaoCan.feedbackNode frame) = false

/-- What is cached of a motor: position, velocity, enabled and fault. -/
def DmMotorState.cached (st : DmMotorState) : Int × Int × Bool × Bool :=
  (st.position, st.velocity, st.enabled, st.fault)

/-- A step in the handling of an acknowledgement changes no cached state, of no axis. -/
def NotDecoded (w : BusPool ι × AckLog ι) (e : BusEvent ι) (w' : BusPool ι × AckLog ι) : Prop :=
  ∀ i op frame, e = .act i op → ackOf w.1 i = some frame →
    (∀ node, (w'.1.shared.dm.motorState node).cached = (w.1.shared.dm.motorState node).cached) ∧
      w'.1.shared.eyou = w.1.shared.eyou ∧ w'.1.shared.mt = w.1.shared.mt ∧
      w'.1.shared.shared = w.1.shared.shared

/-- Every thread follows the rules from where its acknowledgement is. -/
abbrev KeepsAcks (w : BusPool ι × AckLog ι) : Prop :=
  Pool.Attends ackRules (fun _ _ => True) (fun log i _ g => log i = g) w.2 w.1

/-- **Step**: they do as long as acknowledgements without a write name no motor. -/
theorem keepsAcks_step {cfg : DeviceManagerConfig} {deviceName : String}
    {w w' : BusPool ι × AckLog ι} {e : BusEvent ι} (h : KeepsAcks w) (hC : AcksExpected w e)
    (hs : AckStep cfg deviceName w e w') : KeepsAcks w' := by
  obtain ⟨hs, hnote⟩ := hs
  refine h.step (fun i c he _ => ⟨trivial, .received, ?_, ackRules_code cfg deviceName c⟩)
    (fun i c op k g r s' he hi hlog hop hserves hshared => ?_) (fun _ _ _ => trivial)
    (fun j c g hj hlog => ?_) hs
  · rw [hnote, he, noteAck, Function.update_self]
  · obtain ⟨hadmits, rfl⟩ := hserves
    have hthread : ackOf w.1 i = c.registerAck := by rw [ackOf, hi, Option.bind_some]
    refine ⟨fun frame s hack hstate hg => ?_, trivial, ?_⟩
    · cases op with
      | dm f =>
          obtain rfl := Option.some.inj hstate
          rw [show r = w.1.shared.dm from hadmits]
          exact hC i f frame he (hthread.trans hack) (hlog.trans hg)
      | _ => cases hstate
    · subst hlog
      rw [hnote, he]
      cases op with
      | dm f =>
          rw [show r = w.1.shared.dm from hadmits]
          simp only [noteAck, hthread, ackRules, BusOp.dmState]
          cases c.registerAck with
          | none => rfl
          | some frame => exact Function.update_self _ _ _
      | _ =>
          simp only [noteAck, ackRules, BusOp.dmState]
          cases c.registerAck <;> rfl
  · rw [hnote]
    unfold noteAck
    split
    · next i c => exact (Function.update_of_ne hj _ _).trans hlog
    · next i f =>
        cases ackOf w.1 i with
        | some frame => exact (Function.update_of_ne hj _ _).trans hlog
        | none => exact hlog
    · exact hlog

/-- **Run**: when no acknowledgement comes for a motor of the device after the write has
stopped waiting, none is decoded as feedback. -/
theorem ack_not_decoded (cfg : DeviceManagerConfig) (deviceName : String) (b : Bus)
    {w : BusPool ι × AckLog ι} {e : BusEvent ι} {w' : BusPool ι × AckLog ι}
    (hr : Reach (AckStep cfg deviceName) AcksExpected (Pool.idle b, fun _ => .received) w)
    (hs : AckStep cfg deviceName w e w') : NotDecoded w e w' := by
  have h : KeepsAcks w := by
    refine Reach.invariant (I := KeepsAcks) (.idle trivial)
      (fun w e w' h hC hs => keepsAcks_step h hC hs) hr
  obtain ⟨p', log'⟩ := w'
  obtain ⟨hs, -⟩ := hs
  rintro i op frame rfl hack
  cases hs with
  | act i c op k r s' hi hserves =>
      obtain ⟨g, -, hwp⟩ := h.thread i _ hi
      obtain ⟨-, rfl⟩ := hserves
      have hleaves := (hwp.1 frame (by rwa [ackOf, hi, Option.bind_some] at hack)).2
      cases op with
      | dm f =>
          refine ⟨fun node => ?_, rfl, rfl, rfl⟩
          rw [DamiaoCan.motorState, DamiaoCan.motorState]
          exact congrArg (fun states => DmMotorState.cached ((states node).getD {}))
            (hleaves w.1.shared.dm)
      | _ => exact hleaves.elim

end

/-! ## an acknowledgement that comes late -/

/-- DM motor 1 acknowledges that it is in velocity mode. -/
def velocityModeAck : Frame := dataFrame 0 8 #v[1, 0, 0x55, 10, 3, 0, 0, 0]

/-- The next step of the thread that handles it. -/
def ackMove (w : BusPool Nat × AckLog Nat) : Option (BusEvent Nat × BusPool Nat) :=
  Pool.move (BusCall.code {} "can0") (fun b _ => b.serve) w.1 (.go 1)

theorem step_of_ackMove {w : BusPool Nat × AckLog Nat} {e : BusEvent Nat} {p' : BusPool Nat}
    (hmove : ackMove w = some (e, p')) : BusStep {} "can0" w.1 e p' :=
  Pool.step_of_move (h := fun b _ => b.serves) (fun _ _ _ _ _ => serves_of_serve) hmove

/-- A checked form of `AcksExpected`: the acknowledgement is not looked at yet. -/
def noAckLookedAt (w : BusPool Nat × AckLog Nat) : BusEvent Nat → Bool
  | .act i _ => (ackOf w.1 i).isNone
  | _ => true

theorem acksExpected_of_none {w : BusPool Nat × AckLog Nat} {e : BusEvent Nat}
    (h : noAckLookedAt w e = true) : AcksExpected w e := by
  rintro i f frame rfl hack
  rw [noAckLookedAt, hack] at h
  cases h

/-- The acknowledgement comes while the write waits for it. -/
theorem awaited_ack_not_decoded : ∃ (w : BusPool Nat × AckLog Nat) (e : BusEvent Nat)
    (w' : BusPool Nat × AckLog Nat), Reach (AckStep {} "can0") AcksExpected
      (Pool.idle (Bus.powerOn "can0" {} {} 0), fun _ => .received) w ∧
    AckStep {} "can0" w e w' ∧ ackOf w.1 1 = some velocityModeAck ∧
    (w'.1.shared.dm.pendingRegisterAcks (1, 10) = some { received := true, value := 3 }) ∧
    NotDecoded w e w' := by
  have hrun : (Pool.followWhile (BusCall.code {} "can0") (fun b _ => b.serve) noteAck noAckLookedAt
      (Pool.idle (Bus.powerOn "can0" {} {} 0), fun _ => .received)
      (Pool.callFor 0 (.dm 1 (.setMode .velocity)) 6 ++ [.call 1 (.dmReceive velocityModeAck)])).any
        (fun w => decide (ackOf w.1 1 = some velocityModeAck) && (ackMove w).any fun x =>
          decide (x.2.shared.dm.pendingRegisterAcks (1, 10) =
            some { received := true, value := 3 })) = true := by
    decide +kernel
  obtain ⟨w, hr, htest⟩ := Pool.exists_of_followWhile (h := fun b _ => b.serves)
    (fun _ _ _ _ _ => serves_of_serve) (fun _ _ => acksExpected_of_none) hrun
  obtain ⟨hack, hmoves⟩ := Bool.and_eq_true_iff.1 htest
  obtain ⟨⟨e, p'⟩, hmove, hmatched⟩ := (Option.any_eq_true _ _).1 hmoves
  have hs : AckStep {} "can0" w e (p', noteAck w.1 e p' w.2) := ⟨step_of_ackMove hmove, rfl⟩
  exact ⟨w, e, _, hr, hs, of_decide_eq_true hack, of_decide_eq_true hmatched,
    ack_not_decoded {} "can0" (Bus.powerOn "can0" {} {} 0) hr hs⟩

/-- The write of the mode times out and its acknowledgement comes after that: motor 1 gets a
position and a velocity from it. -/
theorem late_ack_decoded : ¬ ∀ (w : BusPool Nat × AckLog Nat) (e : BusEvent Nat)
    (w' : BusPool Nat × AckLog Nat), Reach (AckStep {} "can0") (fun _ _ => True)
      (Pool.idle (Bus.powerOn "can0" {} {} 0), fun _ => .received) w →
    AckStep {} "can0" w e w' → NotDecoded w e w' := by
  intro hclaim
  have hrun : (Pool.followNoting (BusCall.code {} "can0") (fun b _ => b.serve) noteAck
      (Pool.idle (Bus.powerOn "can0" {} {} 0), fun _ => .received)
      (Pool.callFor 0 (.dm 1 (.setMode .velocity)) 9 ++
        Pool.callFor 1 (.dmReceive velocityModeAck) 2)).any
        (fun w => decide (ackOf w.1 1 = some velocityModeAck) && (ackMove w).any fun x =>
          decide ((x.2.shared.dm.motorState 1).cached ≠ (w.1.shared.dm.motorState 1).cached)) =
          true := by
    decide +kernel
  obtain ⟨w, hr, htest⟩ := Pool.exists_of_followNoting (h := fun b _ => b.serves)
    (C := fun _ _ => True) (fun _ _ _ _ _ => serves_of_serve) (fun _ _ _ _ _ _ => trivial) hrun
  obtain ⟨hack, hmoves⟩ := Bool.and_eq_true_iff.1 htest
  obtain ⟨⟨e, p'⟩, hmove, hchanged⟩ := (Option.any_eq_true _ _).1 hmoves
  have hs := step_of_ackMove hmove
  have hkeeps := hclaim w e (p', noteAck w.1 e p' w.2) hr ⟨hs, rfl⟩
  cases hs with
  | call | ret => exact absurd rfl (of_decide_eq_true hchanged)
  | act i c op k r s' hi hserves =>
      obtain rfl := Pool.actor_of_move hmove
      exact of_decide_eq_true hchanged ((hkeeps 1 op _ rfl (of_decide_eq_true hack)).1 1)

end CanDriver
