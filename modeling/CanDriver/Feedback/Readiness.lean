import CanDriver.AxisReadinessEvaluator
import CanDriver.Feedback.Reports
import CanDriver.Lib.Record

/-!
# CanDriver.Feedback.Readiness

An axis counts as ready only if its motor has answered lately, as long as nobody
switches an MT motor.

`MtCan::Enable` and `MtCan::Disable` publish the cached state through the routine of
the receive side, and so make a silent motor look as if it had just answered.
-/

namespace CanDriver

open Interact Prog AxisReadinessEvaluator

/-! ## who was heard -/

/-- The node that sent the frame a call receives. -/
def BusCall.receivedFrom : BusCall → Option (CanType × UInt8)
  | .eyouReceive frame => (EyouCan.responseNode frame).map fun n => (.PP, n)
  | .mtReceive frame => (MtCan.responseNode frame).map fun n => (.MT, n)
  | .dmReceive frame => (DamiaoCan.responseNode frame).map fun n => (.DM, n)
  | _ => none

/-- The MT motor a call switches on or off. -/
def BusCall.switches : BusCall → Option (CanType × UInt8)
  | .mt id .enable => some (protocolNode (.MT, id))
  | .mt id .disable => some (protocolNode (.MT, id))
  | _ => none

/-- A call tells of a node because it has received a frame of it, or because it switches
it. -/
theorem BusCall.receivedFrom_of_tells {c : BusCall} {node : CanType × UInt8}
    (htells : c.tells = some node) (hswitch : c.switches ≠ some node) :
    c.receivedFrom = some node := by
  unfold BusCall.tells at htells
  split at htells
  · exact htells
  · exact htells
  · exact htells
  · exact absurd htells hswitch
  · exact absurd htells hswitch
  · cases htells

/-- The nodes frames were received of, and when. -/
abbrev Receptions := List ((CanType × UInt8) × Time)

section

variable {ι : Type} [DecidableEq ι]

/-- A thread that handles a frame looks at the clock: this is when the motor was heard. -/
def noteReception (p : BusPool ι) (e : BusEvent ι) (p' : BusPool ι) (log : Receptions) :
    Receptions :=
  match e with
  | .act i .clock =>
      match (p.thread i).bind fun t => t.call.receivedFrom with
      | some node => (node, p'.shared.time) :: log
      | none => log
  | _ => log

/-- A step on the device, with the receptions so far. -/
abbrev HearingStep (cfg : DeviceManagerConfig) (deviceName : String) :
    BusPool ι × Receptions → BusEvent ι → BusPool ι × Receptions → Prop :=
  Recording (BusStep cfg deviceName) noteReception

/-! ## only the receive side tells -/

variable {deviceName : String} {node : CanType × UInt8}

/-- The axes of a node on a device. -/
def AxisKey.IsOf (deviceName : String) (node : CanType × UInt8) (key : AxisKey) : Prop :=
  key.device = deviceName ∧ protocolNode (key.protocol, key.motorId) = node

/-- A call that neither receives a frame of the node nor switches it tells nothing new of
its axis. -/
theorem unheard_of_publishes {c : BusCall} {g : Notes} {key : AxisKey} {old new : AxisFeedbackState}
    (hkey : key.IsOf deviceName node) (hswitch : c.switches ≠ some node)
    (hreceived : c.receivedFrom ≠ some node) (h : c.Publishes deviceName g key old new) :
    Unheard old new := by
  rcases h with hkeeps | ⟨-, htells, -⟩
  · exact hkeeps.unheard
  · exact absurd (BusCall.receivedFrom_of_tells (hkey.2 ▸ htells) hswitch) hreceived

/-- The device is sound, and the axes of the node were last heard when a frame of it was
received. -/
structure HeardOnly (deviceName : String) (node : CanType × UInt8) (log : Receptions) (b : Bus) :
    Prop where
  sound : b.Sound deviceName
  heard : ∀ key : AxisKey, key.IsOf deviceName node → (b.shared.record key).feedbackSeen = true →
    (node, (b.shared.record key).lastRxSteadyNs) ∈ log

/-- A thread that serves such a call; what it knows of the time while it handles a frame of
the node is on record. -/
structure Timed (node : CanType × UInt8) (log : Receptions) (c : BusCall) (g : Notes) : Prop where
  switches : c.switches ≠ some node
  times : c.receivedFrom = some node → ∀ t ∈ g.times, (node, t) ∈ log

omit [DecidableEq ι] in
theorem subset_noteReception (p : BusPool ι) (e : BusEvent ι) (p' : BusPool ι) (log : Receptions) :
    log ⊆ noteReception p e p' log := by
  unfold noteReception
  split
  · split
    · exact List.subset_cons_self _ _
    · exact List.Subset.refl _
  · exact List.Subset.refl _

/-- **Step**: an operation of such a thread leaves the axes heard only when they were. -/
theorem HeardOnly.after {b : Bus} {c : BusCall} {g : Notes} {op : BusOp} {r : op.Ans}
    {log log' : Receptions} (hlog : log ⊆ log') (h : HeardOnly deviceName node log b)
    (htimed : Timed node log c g) (hop : (reporting deviceName c).allow g op)
    (hr : b.admits op r) : HeardOnly deviceName node log' (b.after op r) := by
  refine ⟨(h.sound.after hop hr).2, fun key hkey hseen => hlog ?_⟩
  have hpublishes := publishes_after r hop (b := b) key
  by_cases hreceived : c.receivedFrom = some node
  · rcases hpublishes with hkeeps | ⟨-, -, hreports⟩
    · have hsame := hkeeps.unheard.same
      rw [hsame] at hseen ⊢
      exact h.heard key hkey hseen
    · exact htimed.times hreceived _ hreports.exists_time
  · have hsame := (unheard_of_publishes hkey htimed.switches hreceived hpublishes).same
    rw [hsame] at hseen ⊢
    exact h.heard key hkey hseen

/-- The runs in which nobody switches the motor. -/
def NotSwitched (node : CanType × UInt8) (_ : BusPool ι × Receptions) (e : BusEvent ι) : Prop :=
  ∀ i c, e = .call i c → c.switches ≠ some node

/-- **Step**: threads that do not switch the motor stay such. -/
theorem attends_step {cfg : DeviceManagerConfig} {w w' : BusPool ι × Receptions} {e : BusEvent ι}
    (h : Pool.Attends (reporting deviceName) (HeardOnly deviceName node)
      (fun log _ => Timed node log) w.2 w.1)
    (hC : NotSwitched node w e) (hs : HearingStep cfg deviceName w e w') :
    Pool.Attends (reporting deviceName) (HeardOnly deviceName node)
      (fun log _ => Timed node log) w'.2 w'.1 := by
  obtain ⟨hs, hnote⟩ := hs
  have hlog : w.2 ⊆ w'.2 := hnote ▸ subset_noteReception w.1 e w'.1 w.2
  have hgrow : HeardOnly deviceName node w'.2 w.1.shared :=
    ⟨h.shared.sound, fun key hkey hseen => hlog (h.shared.heard key hkey hseen)⟩
  refine h.step (fun i c he _ => ⟨hgrow, {}, ⟨hC i c he, fun _ t ht => by simp at ht⟩,
    reporting_code cfg c⟩) (fun i c op k g r s' he hi htimed hop hserves hshared => ?_)
    (fun _ _ _ => hgrow)
    (fun j c g _ htimed => ⟨htimed.switches, fun hfrom t ht => hlog (htimed.times hfrom t ht)⟩) hs
  obtain ⟨hadmits, rfl⟩ := hserves
  refine ⟨(h.shared.sound.after hop hadmits).1, h.shared.after hlog htimed hop hadmits,
    htimed.switches, fun hfrom t ht => ?_⟩
  cases op with
  | clock =>
      rcases List.mem_cons.1 ht with rfl | ht
      · rw [hnote, he]
        simp [noteReception, hi, hfrom, hshared, Bus.after]
      · exact hlog (htimed.times hfrom t ht)
  | _ => exact hlog (htimed.times hfrom t ht)

end

/-! ## a motor that is switched on after it fell silent -/

/-- Serve the device, each thread at its own time. -/
def serveAt (times : Nat → Time) (b : Bus) (i : Nat) : (op : BusOp) → Option (op.Ans × Bus)
  | .clock => some (max b.time (times i), { b with time := max b.time (times i) })
  | op => b.serve op

theorem serves_of_serveAt {times : Nat → Time} {b b' : Bus} {i : Nat} {op : BusOp} {r : op.Ans}
    (h : serveAt times b i op = some (r, b')) : b.serves op r b' := by
  cases op with
  | clock =>
      obtain ⟨rfl, rfl⟩ : max b.time (times i) = r ∧ _ = b' := by simpa [serveAt] using h
      exact ⟨Int.le_max_left _ _, rfl⟩
  | _ => exact serves_of_serve h

/-- MT motor 1 answers that it has no fault. -/
def faultFree : Frame := dataFrame 0x241 8 #v[0x9A, 0, 0, 0, 0, 0, 0, 0]

/-- The device comes up and the motor answers, both at one millisecond. -/
def answeredOnce : List (Pool.Move Nat BusCall) :=
  Pool.callFor 0 (.initDevice [(.MT, 0x141)]) 26 ++ Pool.callFor 1 (.mtReceive faultFree) 7

/-- Thread 2 comes ten seconds later. -/
def lateThread (i : Nat) : Time := if i = 2 then ms 10000 else ms 1

/-- Whether the motor was heard at one millisecond only, and may run at `now`. -/
def readyAt (now : Time) (w : BusPool Nat × Receptions) : Bool :=
  decide (w.2 = [((.MT, 1), ms 1)]) &&
    (w.1.shared.shared.getAxisFeedback (makeAxisKey "can0" .MT 0x141)).any fun feedback =>
      readyForEnable (AxisReadinessEvaluator.evaluate {} feedback none .none none now)

end CanDriver
