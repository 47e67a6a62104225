import CanDriver.Feedback.Calls
import CanDriver.Feedback.Frames

/-!
# CanDriver.Feedback.Reports

What the receive handlers publish is what they have decoded.
-/

namespace CanDriver

open Interact Prog Proto

variable {deviceName : String}

/-! ## what a thread has seen -/

/-- The notes only grow. -/
structure Notes.Le (g g' : Notes) : Prop where
  eyou : g.eyou ⊆ g'.eyou
  mt : g.mt ⊆ g'.mt
  dm : g.dm ⊆ g'.dm
  times : g.times ⊆ g'.times

theorem Notes.Le.refl (g : Notes) : g.Le g :=
  ⟨List.Subset.refl _, List.Subset.refl _, List.Subset.refl _, List.Subset.refl _⟩

theorem Notes.Le.trans {g₁ g₂ g₃ : Notes} (h : g₁.Le g₂) (h' : g₂.Le g₃) : g₁.Le g₃ :=
  ⟨List.Subset.trans h.eyou h'.eyou, List.Subset.trans h.mt h'.mt, List.Subset.trans h.dm h'.dm,
    List.Subset.trans h.times h'.times⟩

/-- Who has seen more may report as much. -/
theorem BusCall.Reports.mono {c : BusCall} {g g' : Notes} {n : UInt8} {old new : AxisFeedbackState}
    (hg : g.Le g') (h : c.Reports g n old new) : c.Reports g' n old new := by
  obtain ⟨t, ht, h⟩ := h
  refine ⟨t, hg.times ht, ?_⟩
  split at h
  · obtain ⟨hread, s, hs, hnew⟩ := h
    exact ⟨hread, s, hg.eyou hs, hnew⟩
  · obtain ⟨s, hs, hnew⟩ := h
    exact ⟨s, hg.mt hs, hnew⟩
  · obtain ⟨s, hs, hnew⟩ := h
    exact ⟨s, hg.dm hs, hnew⟩
  · obtain ⟨s, hs, hnew⟩ := h
    exact ⟨s, hg.mt hs, hnew⟩
  · obtain ⟨s, hs, hnew⟩ := h
    exact ⟨s, hg.mt hs, hnew⟩
  · exact h.elim

/-- A call that receives no frame. -/
def BusCall.Unreceiving (c : BusCall) : Prop :=
  ∀ frame, c ≠ .eyouReceive frame ∧ c ≠ .mtReceive frame ∧ c ≠ .dmReceive frame

/-! ### updates that decode nothing -/

theorem updatesEyou_of_same (c : BusCall) {f : EyouCan → EyouCan}
    (hlocal : EyouCan.LocalUpdate deviceName f)
    (hsame : ∀ s n, (f s).motorState n = s.motorState n) : c.UpdatesEyou deviceName f := by
  refine fun s hs => ⟨(hlocal s hs).1, fun n => ?_⟩
  split
  · exact .inl (hsame s n)
  · exact hsame s n
  · exact hsame s n
  · exact (hlocal s hs).2 n

theorem updatesMt_of_same (c : BusCall) {f : MtCan → MtCan} (hlocal : MtCan.LocalUpdate deviceName f)
    (hsame : ∀ s n, (f s).motorState n = s.motorState n) : c.UpdatesMt deviceName f := by
  refine fun s hs => ⟨(hlocal s hs).1, fun n => ?_⟩
  split
  · exact .inl (hsame s n)
  · exact hsame s n
  · exact hsame s n
  · exact (hlocal s hs).2 n

theorem updatesDm_of_same (c : BusCall) {f : DamiaoCan → DamiaoCan}
    (hlocal : DamiaoCan.LocalUpdate deviceName f)
    (hsame : ∀ s n, (f s).motorState n = s.motorState n) : c.UpdatesDm deviceName f := by
  refine fun s hs => ⟨hlocal s hs, fun n => ?_⟩
  split
  · exact .inl (hsame s n)
  · exact hsame s n
  · exact hsame s n
  · trivial

/-! ### calls that receive nothing -/

section

variable {c : BusCall} (hreceives : c.Unreceiving)
include hreceives

theorem updatesEyou_of_local {f : EyouCan → EyouCan} (hf : EyouCan.LocalUpdate deviceName f) :
    c.UpdatesEyou deviceName f := by
  refine fun s hs => ⟨(hf s hs).1, fun n => ?_⟩
  split
  · exact absurd rfl (hreceives _).1
  · exact absurd rfl (hreceives _).2.1
  · exact absurd rfl (hreceives _).2.2
  · exact (hf s hs).2 n

theorem updatesMt_of_local {f : MtCan → MtCan} (hf : MtCan.LocalUpdate deviceName f) :
    c.UpdatesMt deviceName f := by
  refine fun s hs => ⟨(hf s hs).1, fun n => ?_⟩
  split
  · exact absurd rfl (hreceives _).2.1
  · exact absurd rfl (hreceives _).1
  · exact absurd rfl (hreceives _).2.2
  · exact (hf s hs).2 n

theorem updatesDm_of_local {f : DamiaoCan → DamiaoCan} (hf : DamiaoCan.LocalUpdate deviceName f) :
    c.UpdatesDm deviceName f := by
  refine fun s hs => ⟨hf s hs, fun n => ?_⟩
  split
  · exact absurd rfl (hreceives _).2.2
  · exact absurd rfl (hreceives _).1
  · exact absurd rfl (hreceives _).2.1
  · trivial

theorem reporting_untold {g : Notes} {f : SharedDriverState → SharedDriverState}
    (h : Untold f) : (reporting deviceName c).allow g (.shared f) := by
  refine fun s key => .inl ?_
  unfold BusCall.Keeps
  split
  · exact absurd rfl (hreceives _).1
  · exact absurd rfl (hreceives _).2.1
  · exact absurd rfl (hreceives _).2.2
  · exact h s key

end

/-- Whatever becomes of a request, nothing is decoded. -/
theorem reporting_submit (c : BusCall) (r : Request) (g : Notes) :
    (DeviceRuntime.submit r).wp (reporting deviceName c) (fun _ g' => g.Le g') g := by
  refine ⟨trivial, fun accepted _ => ?_⟩
  show (if accepted = true then pure () else DeviceRuntime.completeDropped r : BusProg Unit).wp _ _ g
  split
  · exact Notes.Le.refl g
  · unfold DeviceRuntime.completeDropped
    cases r.completion with
    | none => exact Notes.Le.refl g
    | some completion =>
        refine ⟨trivial, fun t _ => ?_⟩
        cases completion with
        | eyouRead node subCommand =>
            refine ⟨updatesEyou_of_same c (EyouCan.localUpdate_onReadDispatchResult _ _ _ _ _)
              fun s n => ?_, fun s _ => ?_⟩
            · unfold EyouCan.onReadDispatchResult
              split
              · rfl
              · split <;> rfl
            · exact ⟨List.subset_cons_self _ _, List.Subset.refl _, List.Subset.refl _,
                List.subset_cons_self _ _⟩
        | mtRead node command =>
            refine ⟨updatesMt_of_same c (MtCan.localUpdate_onReadDispatchResult _ _ _ _ _)
              fun s n => ?_, fun s _ => ?_⟩
            · unfold MtCan.onReadDispatchResult
              split
              · rfl
              · split <;> rfl
            · exact ⟨List.Subset.refl _, List.subset_cons_self _ _, List.Subset.refl _,
                List.subset_cons_self _ _⟩

/-! ### from the port to the device -/

/-- What a thread has seen of a protocol object, and when it looked at the clock. -/
structure Seen (P : Type) where
  objects : List P := []
  times : List Time := []

/-- The discipline of a call, as the protocol object sees it: `notes` is what the thread
has seen, among all that a thread on the device may have seen. -/
def reportingPort {P : Type} (deviceName : String) (c : BusCall) (sound : P → Prop)
    (updates : (P → P) → Prop) (notes : Seen P → Notes) : Protocol (portSig P) (Seen P) where
  allow g
    | .proto f => updates f
    | .shared f => ∀ s key, c.Publishes deviceName (notes g) key (s.record key) ((f s).record key)
    | .submit _ => True
    | .clock => True
  accepts _
    | .proto _, s => sound s
    | _, _ => True
  next g
    | .proto _, s => { g with objects := s :: g.objects }
    | .clock, t => { g with times := t :: g.times }
    | _, _ => g

/-- What a thread has seen it keeps. -/
theorem wp_seen {P : Type} {c : BusCall} {sound : P → Prop} {updates : (P → P) → Prop}
    {notes : Seen P → Notes} {Q : α → Seen P → Prop} {p : Proto P α} {g : Seen P}
    (hp : p.wp (reportingPort deviceName c sound updates notes) Q g) :
    p.wp (reportingPort deviceName c sound updates notes)
      (fun a g' => Q a g' ∧ g.objects ⊆ g'.objects) g := by
  induction p generalizing g with
  | ret a => exact ⟨hp, List.Subset.refl _⟩
  | vis op k ih =>
      refine ⟨hp.1, fun r hr => wp_mono (ih r (hp.2 r hr)) fun a g' h => ⟨h.1, ?_⟩⟩
      refine List.Subset.trans ?_ h.2
      cases op with
      | proto f => exact List.subset_cons_self _ _
      | _ => exact List.Subset.refl _

/-- A handler that keeps the discipline of its object keeps that of the device. -/
theorem onBus_reporting {P : Type} [BusObject P] {c : BusCall} {sound : P → Prop}
    {updates : (P → P) → Prop} {notes : Seen P → Notes}
    (hown : ∀ (f : P → P) d g, updates f → (notes d).Le g → (BusObject.own f).wp
      (reporting deviceName c) (fun s g' => sound s ∧
        (notes { d with objects := s :: d.objects }).Le g') g)
    (htimes : ∀ d g t, (notes d).Le g →
      (notes { d with times := t :: d.times }).Le { g with times := t :: g.times })
    (hzero : (notes {}).Le {}) {p : Proto P α}
    (hp : p.wp (reportingPort deviceName c sound updates notes) (fun _ _ => True) {}) :
    p.onBus.wp (reporting deviceName c) (fun _ _ => True) {} := by
  refine wp_mono (wp_interp (R := fun g d => (notes d).Le g) (fun g d op hR hop => ?_) hzero hp)
    fun _ _ _ => trivial
  cases op with
  | proto f => exact hown f d g hop hR
  | shared f =>
      refine ⟨fun s key => ?_, fun _ _ => ⟨trivial, hR⟩⟩
      rcases hop s key with hsilent | ⟨hdevice, hnode, hreport⟩
      · exact .inl hsilent
      · exact .inr ⟨hdevice, hnode, hreport.mono hR⟩
  | submit r => exact wp_mono (reporting_submit c r g) fun _ _ h => ⟨trivial, hR.trans h⟩
  | clock => exact ⟨trivial, fun t _ => ⟨trivial, htimes d g t hR⟩⟩

/-- The discipline of a call on the PP object. -/
abbrev EyouCan.port (deviceName : String) (c : BusCall) : Protocol (portSig EyouCan) (Seen EyouCan) :=
  reportingPort deviceName c (Sound deviceName) (c.UpdatesEyou deviceName) fun g =>
    { eyou := g.objects, times := g.times }

/-- The discipline of a call on the MT object. -/
abbrev MtCan.port (deviceName : String) (c : BusCall) : Protocol (portSig MtCan) (Seen MtCan) :=
  reportingPort deviceName c (Routed deviceName) (c.UpdatesMt deviceName) fun g =>
    { mt := g.objects, times := g.times }

/-- The discipline of a call on the DM object. -/
abbrev DamiaoCan.port (deviceName : String) (c : BusCall) :
    Protocol (portSig DamiaoCan) (Seen DamiaoCan) :=
  reportingPort deviceName c (Routed deviceName) (c.UpdatesDm deviceName) fun g =>
    { dm := g.objects, times := g.times }

theorem EyouCan.reporting_of_port {c : BusCall} {p : Proto EyouCan α}
    (hp : p.wp (port deviceName c) (fun _ _ => True) {}) :
    p.onBus.wp (reporting deviceName c) (fun _ _ => True) {} := by
  refine onBus_reporting (fun f d g hf hg => ?_) (fun d g t hg => ?_) (Notes.Le.refl _) hp
  · show (Device.eyou f).wp _ _ g
    exact ⟨hf, fun s hs => ⟨hs, List.cons_subset_cons _ hg.eyou, hg.mt, hg.dm, hg.times⟩⟩
  · exact ⟨hg.eyou, hg.mt, hg.dm, List.cons_subset_cons _ hg.times⟩

theorem MtCan.reporting_of_port {c : BusCall} {p : Proto MtCan α}
    (hp : p.wp (port deviceName c) (fun _ _ => True) {}) :
    p.onBus.wp (reporting deviceName c) (fun _ _ => True) {} := by
  refine onBus_reporting (fun f d g hf hg => ?_) (fun d g t hg => ?_) (Notes.Le.refl _) hp
  · show (Device.mt f).wp _ _ g
    exact ⟨hf, fun s hs => ⟨hs, hg.eyou, List.cons_subset_cons _ hg.mt, hg.dm, hg.times⟩⟩
  · exact ⟨hg.eyou, hg.mt, hg.dm, List.cons_subset_cons _ hg.times⟩

theorem DamiaoCan.reporting_of_port {c : BusCall} {p : Proto DamiaoCan α}
    (hp : p.wp (port deviceName c) (fun _ _ => True) {}) :
    p.onBus.wp (reporting deviceName c) (fun _ _ => True) {} := by
  refine onBus_reporting (fun f d g hf hg => ?_) (fun d g t hg => ?_) (Notes.Le.refl _) hp
  · show (Device.dm f).wp _ _ g
    exact ⟨hf, fun s hs => ⟨hs, hg.eyou, hg.mt, List.cons_subset_cons _ hg.dm, hg.times⟩⟩
  · exact ⟨hg.eyou, hg.mt, hg.dm, List.cons_subset_cons _ hg.times⟩

/-- A local program keeps the discipline of any call but those that receive. -/
theorem reporting_of_local {c : BusCall} {p : BusProg α} {g : Notes} (hreceives : c.Unreceiving)
    (hp : p.Stays (LocalOp deviceName)) :
    p.wp (reporting deviceName c) (fun _ _ => True) g := by
  refine wp_mono (wp_of_only (P := reporting deviceName c) (I := fun _ => True) hp
    (fun g op _ hop => ⟨?_, fun _ _ => trivial⟩) trivial) fun _ _ _ => trivial
  cases op with
  | eyou f => exact updatesEyou_of_local hreceives hop
  | mt f => exact updatesMt_of_local hreceives hop
  | dm f => exact updatesDm_of_local hreceives hop
  | shared f => exact reporting_untold hreceives hop
  | _ => trivial

/-! ## keys -/

/-- The axis of a node has this node, whatever id is on the map. -/
theorem Routed.node {P : Type} [NodeMap P] {s : P} (h : Routed deviceName s) (n : UInt8) :
    protocolNode (NodeMap.type P,
      (NodeMap.ids s n).getD (systemMotorId (NodeMap.type P, n))) = (NodeMap.type P, n) := by
  cases hn : NodeMap.ids s n with
  | none => exact protocolNode_systemMotorId (NodeMap.type P, n)
  | some id => exact h.ids n id hn

theorem EyouCan.node_axisKey {s : EyouCan} (h : Routed deviceName s) (n : UInt8) :
    (s.axisKey n).device = deviceName ∧
      protocolNode ((s.axisKey n).protocol, (s.axisKey n).motorId) = (.PP, n) :=
  ⟨h.device, h.node n⟩

theorem MtCan.node_axisKey {s : MtCan} (h : Routed deviceName s) (n : UInt8) :
    (s.axisKey n).device = deviceName ∧
      protocolNode ((s.axisKey n).protocol, (s.axisKey n).motorId) = (.MT, n) :=
  ⟨h.device, h.node n⟩

theorem DamiaoCan.node_axisKey {s : DamiaoCan} (h : Routed deviceName s) (n : UInt8) :
    (s.axisKey n).device = deviceName ∧
      protocolNode ((s.axisKey n).protocol, (s.axisKey n).motorId) = (.DM, n) :=
  ⟨h.device, h.node n⟩

/-- Publishing a report about the axis of a node the call may report about. -/
theorem publishes_mutate {c : BusCall} {g : Notes} {k : AxisKey} {node : CanType × UInt8}
    {fn : AxisFeedbackState → AxisFeedbackState} (hdevice : k.device = deviceName)
    (hnode : protocolNode (k.protocol, k.motorId) = node) (htells : c.tells = some node)
    (hreport : ∀ old, c.Reports g node.2 old (SharedDriverState.recomputeAxisObserved (fn old)))
    (s : SharedDriverState) (key : AxisKey) :
    c.Publishes deviceName g key (s.record key) ((s.mutateAxisFeedback k fn).record key) := by
  by_cases h : key = k
  · subst h
    refine .inr ⟨hdevice, hnode.symm ▸ htells, ?_⟩
    have hnew : (s.mutateAxisFeedback key fn).record key =
        SharedDriverState.recomputeAxisObserved (fn { s.record key with key }) := by
      rw [SharedDriverState.record, SharedDriverState.getAxisFeedback_mutateAxisFeedback_self]
      rfl
    rw [hnew, hnode]
    exact hreport _
  · refine .inl ?_
    rw [SharedDriverState.record, SharedDriverState.record,
      SharedDriverState.getAxisFeedback_mutateAxisFeedback_of_ne h]
    exact .refl c _

/-! ## the handlers -/

namespace EyouCan

/-- A program that decodes nothing keeps the discipline of any call. -/
theorem port_of_quiet {c : BusCall} {p : Proto EyouCan α} {g : Seen EyouCan}
    (hlocal : p.Stays (LocalPort (LocalUpdate deviceName))) (hquiet : p.Stays (Quiet KeepsStates)) :
    p.wp (port deviceName c) (fun _ _ => True) g := by
  refine Stays.wp ((hlocal.and hquiet).mono fun op hop g => ?_)
  cases op with
  | proto f => exact updatesEyou_of_same c hop.1 hop.2
  | shared f => exact hop.2.elim
  | _ => trivial

theorem port_gets {c : BusCall} {g : Seen EyouCan} (f : EyouCan → α)
    {Q : α → Seen EyouCan → Prop}
    (hQ : ∀ s, Sound deviceName s → Q (f s) { g with objects := s :: g.objects }) :
    (gets f).wp (port deviceName c) Q g :=
  ⟨updatesEyou_of_same c localUpdate_id fun _ _ => rfl, fun s hs => hQ s hs⟩

/-- Publishing a state the thread has decoded. -/
theorem port_syncSharedFeedback {frame : Frame} {node : UInt8} {g : Seen EyouCan} {s : EyouCan}
    (hnode : responseNode frame = some node) (hread : frame.byte 0 = kReadResponse)
    (hs : s ∈ g.objects) :
    (syncSharedFeedback node (decodeRead frame (s.motorState node))).wp
      (port deviceName (.eyouReceive frame)) (fun _ _ => True) g := by
  refine wp_bind.2 ⟨trivial, fun t _ => wp_bind.2 (port_gets id fun s' hs' => ?_)⟩
  show (if s'.publishes = true then _ else _ : Proto EyouCan Unit).wp _ _ _
  split
  · obtain ⟨hdevice, haxis⟩ := node_axisKey hs'.toRouted node
    refine ⟨fun shared key => publishes_mutate hdevice haxis (by simp [BusCall.tells, hnode])
      (fun old => ?_) shared key, fun _ _ => trivial⟩
    exact ⟨t, List.mem_cons_self, hread, s, List.mem_cons_of_mem _ hs, rfl⟩
  · trivial

/-- A frame that is no read response tells nothing new. -/
theorem local_handleResponse {frame : Frame}
    (h : (responseNode frame).isSome → frame.byte 0 ≠ kReadResponse) :
    (handleResponse frame).Stays (LocalPort (LocalUpdate deviceName)) := by
  refine (local_gets _).bind fun s => .ite trivial ?_
  cases hnode : responseNode frame with
  | none => trivial
  | some node =>
      have hread : frame.byte 0 ≠ kReadResponse := h (by rw [hnode]; rfl)
      refine .ite (.bind (local_modify (localUpdate_setMotorState _ forgets_refl)) fun _ =>
        .ite ?_ ?_) trivial
      · have hack : (markWriteAckReceived node (frame.byte 1) (dataByteOrZero frame 2)).Stays
            (LocalPort (LocalUpdate deviceName)) :=
          local_setting (fun _ => rfl) (fun _ => rfl) (fun _ => rfl) (fun _ => rfl) fun _ => rfl
        refine hack.bind fun _ => .ite (.bind ?_ fun _ => trivial) trivial
        unfold resyncAfter
        split
        all_goals first | exact local_tryIssueReadCommand _ _ | trivial
      · rw [if_neg hread]
        trivial

/-- Decoding a read response. -/
theorem port_decode {frame : Frame} {node : UInt8} (hnode : responseNode frame = some node)
    (hread : frame.byte 0 = kReadResponse) (s : EyouCan) (hs : Sound deviceName s) :
    Sound deviceName (s.setMotorState node (decodeRead frame)) ∧
      ∀ n, (s.setMotorState node (decodeRead frame)).motorState n = s.motorState n ∨
        responseNode frame = some n ∧ frame.byte 0 = kReadResponse ∧
          (s.setMotorState node (decodeRead frame)).motorState n =
            decodeRead frame (s.motorState n) := by
  refine ⟨⟨⟨hs.device, hs.ids⟩, hs.controller, hs.dispatcher⟩, fun n => ?_⟩
  by_cases hn : n = node
  · subst hn
    exact .inr ⟨hnode, hread, by simp [setMotorState, motorState]⟩
  · exact .inl (by simp [setMotorState, motorState, put_of_ne _ _ hn])

theorem handleResponse_reporting (frame : Frame) :
    (handleResponse frame).wp (port deviceName (.eyouReceive frame)) (fun _ _ => True) {} := by
  by_cases hreads : (responseNode frame).isSome → frame.byte 0 ≠ kReadResponse
  · exact port_of_quiet (local_handleResponse hreads) (quiet_handleResponse hreads)
  · rw [Classical.not_imp, not_not] at hreads
    obtain ⟨hsome, hread⟩ := hreads
    obtain ⟨node, hnode⟩ := Option.isSome_iff_exists.1 hsome
    have hack : ¬ frame.byte 0 = kWriteAck := by
      rw [hread]
      decide
    unfold handleResponse
    simp only [hnode, if_neg hack, if_pos hread]
    refine wp_bind.2 (port_gets id fun s hs => ?_)
    split
    · trivial
    split
    · refine wp_bind.2 (wp_mono (port_of_quiet (local_modify (localUpdate_setMotorState _
        forgets_refl)) (quiet_modify fun s n => ?_)) fun _ g _ => ?_)
      · by_cases hn : n = node
        · subst hn
          simp [setMotorState, motorState]
        · simp [setMotorState, motorState, put_of_ne _ _ hn]
      refine wp_bind.2 (wp_mono (port_of_quiet (local_markReadResponseReceived _ _) ?_)
        fun _ g _ => wp_bind.2 ⟨port_decode hnode hread, fun s' _ => ?_⟩)
      · refine .bind (.vis trivial fun _ => trivial) fun t => quiet_modify fun s n => ?_
        split <;> rfl
      · exact port_syncSharedFeedback hnode hread List.mem_cons_self
    · trivial

end EyouCan

namespace MtCan

theorem port_gets {c : BusCall} {g : Seen MtCan} (f : MtCan → α) {Q : α → Seen MtCan → Prop}
    (hQ : ∀ s, Routed deviceName s → Q (f s) { g with objects := s :: g.objects }) :
    (gets f).wp (port deviceName c) Q g :=
  ⟨updatesMt_of_same c localUpdate_id fun _ _ => rfl, fun s hs => hQ s hs⟩

/-- An update that leaves the motor states alone is anybody's. -/
theorem port_modify {c : BusCall} {g : Seen MtCan} {f : MtCan → MtCan}
    (hname : ∀ s, (f s).deviceName = s.deviceName)
    (hids : ∀ s, (f s).systemMotorIdsByNodeId = s.systemMotorIdsByNodeId)
    (hstates : ∀ s, (f s).motorStates = s.motorStates) :
    (modify f).wp (port deviceName c) (fun _ _ => True) g :=
  ⟨updatesMt_of_same c (localUpdate_of_states hname hids hstates) fun s n => by
    rw [motorState, motorState, hstates s], fun _ _ => trivial⟩

theorem port_submitTx {c : BusCall} {g : Seen MtCan} (frame : Frame) (category : Category)
    (source : TxSource) :
    (submitTx frame category source).wp (port deviceName c) (fun _ _ => True) g := by
  refine wp_bind.2 (port_gets id fun s _ => ?_)
  exact (wp_ite _ _ _).2 (by split; exacts [⟨trivial, fun _ _ => trivial⟩, trivial])

/-- Publishing a state the call may report. -/
theorem port_syncSharedFeedback {c : BusCall} {node : UInt8} {g : Seen MtCan} {st : MtMotorState}
    (htells : c.tells = some (.MT, node))
    (hreport : ∀ (g' : Notes) t old, g.objects ⊆ g'.mt → t ∈ g'.times →
      c.Reports g' node old (published st t old)) :
    (syncSharedFeedback node st).wp (port deviceName c) (fun _ _ => True) g := by
  refine wp_bind.2 ⟨trivial, fun t _ => wp_bind.2 (port_gets id fun s hs => (wp_ite _ _ _).2 ?_)⟩
  split
  · obtain ⟨hdevice, haxis⟩ := node_axisKey hs node
    refine ⟨fun shared key => publishes_mutate hdevice haxis htells (fun old => ?_) shared key,
      fun _ _ => trivial⟩
    exact hreport _ t old (List.subset_cons_self _ _) List.mem_cons_self
  · trivial

/-- Decoding a response. -/
theorem port_decode {frame : Frame} {node : UInt8} (hnode : responseNode frame = some node)
    (s : MtCan) (hs : Routed deviceName s) :
    Routed deviceName (s.setMotorState node (decodeResponse frame)) ∧
      ∀ n, (s.setMotorState node (decodeResponse frame)).motorState n = s.motorState n ∨
        responseNode frame = some n ∧
          (s.setMotorState node (decodeResponse frame)).motorState n =
            decodeResponse frame (s.motorState n) := by
  refine ⟨⟨hs.device, hs.ids⟩, fun n => ?_⟩
  by_cases hn : n = node
  · subst hn
    exact .inr ⟨hnode, by simp [setMotorState, motorState]⟩
  · exact .inl (by simp [setMotorState, motorState, put_of_ne _ _ hn])

/-- What follows the read bookkeeping: decode, publish, restart after a zeroing. -/
theorem port_deliver {frame : Frame} {node : UInt8} (hnode : responseNode frame = some node)
    (command : Option MtRmd.Command) (g : Seen MtCan) : Prog.wp (port deviceName (.mtReceive frame))
      (do
        let snapshot ← access fun s =>
          (decodeResponse frame (s.motorState node), s.setMotorState node (decodeResponse frame))
        if command.any Command.isPublished then syncSharedFeedback node snapshot
        if command = some .writeCurrentMultiTurnPositionToRomAsZero then
          let _ ← resetSystem node
          pure ()) (fun _ _ => True) g := by
  have hrestart : ∀ g : Seen MtCan, Prog.wp (port deviceName (.mtReceive frame))
      (if command = some .writeCurrentMultiTurnPositionToRomAsZero then do
        let _ ← resetSystem node
        pure ()
      else pure ()) (fun _ _ => True) g := by
    intro g
    refine (wp_ite _ _ _).2 ?_
    split
    · exact wp_bind.2 (wp_mono (port_submitTx _ _ _) fun _ _ _ => trivial)
    · trivial
  refine wp_bind.2 ⟨port_decode hnode, fun s hs => (wp_ite _ _ _).2 ?_⟩
  split
  · refine wp_bind.2 (wp_mono (port_syncSharedFeedback (by simp [BusCall.tells, hnode])
      fun g' t old hg ht => ?_) fun _ g _ => hrestart g)
    exact ⟨t, ht, s, hg List.mem_cons_self, rfl⟩
  · exact hrestart _

theorem handleResponse_reporting (frame : Frame) :
    (handleResponse frame).wp (port deviceName (.mtReceive frame)) (fun _ _ => True) {} := by
  refine wp_bind.2 (port_gets id fun s _ => ?_)
  by_cases hup : s.shuttingDown || frame.isExtended
  · rw [id, if_pos hup]
    trivial
  rw [id, if_neg hup]
  by_cases hid : !MtRmd.isResponseCanId (frame.id &&& 0x7FF) || frame.dlc = 0
  · simp only [if_pos hid]
    trivial
  have hnode : responseNode frame = some (MtRmd.responseNodeId (frame.id &&& 0x7FF)) := by
    simp only [Bool.or_eq_true, not_or, Bool.not_eq_true] at hup
    simp only [responseNode, hup.2, Bool.false_or, if_neg hid]
  simp only [if_neg hid]
  refine (wp_ite _ _ _).2 ?_
  split
  · refine wp_bind.2 (wp_mono (port_modify ?_ ?_ ?_) fun _ g _ => port_deliver hnode _ g)
    all_goals
      intro s
      unfold answerRead
      split <;> rfl
  · exact port_deliver hnode _ _

/-- A local program keeps the discipline of any call that receives nothing. -/
theorem port_of_local {c : BusCall} {p : Proto MtCan α} {g : Seen MtCan}
    (hreceives : c.Unreceiving)
    (hp : p.Stays (LocalPort (LocalUpdate deviceName))) :
    p.wp (port deviceName c) (fun _ _ => True) g := by
  refine Stays.wp (hp.mono fun op hop g => ?_)
  cases op with
  | proto f => exact updatesMt_of_local hreceives hop
  | shared f => exact reporting_untold hreceives hop
  | _ => trivial

/-- Switching a motor: its cached state is changed, and published as if it had answered. -/
theorem port_switch {id : MotorID} {c : BusCall} (on : Bool) (intent : AxisIntent)
    {p : Proto MtCan Bool} (hreceives : c.Unreceiving) (htells : c.tells = some (.MT, toMtProtocolNodeId id))
    (hreport : ∀ g n old new t s, t ∈ g.times → s ∈ g.mt →
      new = published ((s.motorState n).switched on) t old → c.Reports g n old new)
    (hp : p.Stays (LocalPort (LocalUpdate deviceName))) : Prog.wp (port deviceName c)
      (withController do
        rememberSystemMotorId id
        let snapshot ← access fun s =>
          let s' := s.setMotorState (toMtProtocolNodeId id) (MtMotorState.switched on)
          (s'.motorState (toMtProtocolNodeId id), s')
        syncSharedIntent (toMtProtocolNodeId id) intent
        syncSharedFeedback (toMtProtocolNodeId id) snapshot
        p) (fun _ _ => True) {} := by
  have hswitch : LocalUpdate deviceName fun s : MtCan =>
      s.setMotorState (toMtProtocolNodeId id) (MtMotorState.switched on) :=
    localUpdate_setMotorState _ fun _ => ⟨fun h => ⟨h, rfl⟩⟩
  refine wp_bind.2 (port_gets _ fun s _ => (wp_ite _ _ _).2 ?_)
  split
  · refine wp_bind.2 (wp_mono (port_of_local hreceives (local_rememberSystemMotorId _))
      fun _ g _ => ?_)
    refine wp_bind.2 ⟨updatesMt_of_local hreceives hswitch, fun s _ => ?_⟩
    refine wp_bind.2 (wp_mono (wp_seen (port_of_local hreceives (local_syncSharedIntent _)))
      fun _ g hseen => ?_)
    refine wp_bind.2 (wp_mono (port_syncSharedFeedback htells fun g' t old hg ht => ?_)
      fun _ g _ => port_of_local hreceives hp)
    refine hreport g' _ old _ t s ht (hg (hseen.2 List.mem_cons_self)) ?_
    simp [setMotorState, motorState]
  · trivial

theorem enable_reporting (id : MotorID) :
    (enable id).wp (port deviceName (.mt id .enable)) (fun _ _ => True) {} := by
  refine port_switch true .enable (fun _ => by simp) rfl ?_ trivial
  exact fun g n old new t s ht hs hnew => ⟨t, ht, s, hs, hnew⟩

theorem disable_reporting (id : MotorID) :
    (disable id).wp (port deviceName (.mt id .disable)) (fun _ _ => True) {} := by
  refine port_switch false .disable (fun _ => by simp) rfl ?_ ((local_submitTx _ _ _).bind fun _ => trivial)
  exact fun g n old new t s ht hs hnew => ⟨t, ht, s, hs, hnew⟩

end MtCan

namespace DamiaoCan

theorem port_gets {c : BusCall} {g : Seen DamiaoCan} (f : DamiaoCan → α)
    {Q : α → Seen DamiaoCan → Prop}
    (hQ : ∀ s, Routed deviceName s → Q (f s) { g with objects := s :: g.objects }) :
    (gets f).wp (port deviceName c) Q g :=
  ⟨updatesDm_of_same c (fun _ hs => hs) fun _ _ => rfl, fun s hs => hQ s hs⟩

/-- Publishing a state the call may report. -/
theorem port_syncSharedFeedback {c : BusCall} {node : UInt8} {g : Seen DamiaoCan}
    {st : DmMotorState} (htells : c.tells = some (.DM, node))
    (hreport : ∀ (g' : Notes) t old, g.objects ⊆ g'.dm → t ∈ g'.times →
      c.Reports g' node old (published st t old)) :
    (syncSharedFeedback node st).wp (port deviceName c) (fun _ _ => True) g := by
  refine wp_bind.2 ⟨trivial, fun t _ => wp_bind.2 (port_gets id fun s hs => (wp_ite _ _ _).2 ?_)⟩
  split
  · obtain ⟨hdevice, haxis⟩ := node_axisKey hs node
    refine ⟨fun shared key => publishes_mutate hdevice haxis htells (fun old => ?_) shared key,
      fun _ _ => trivial⟩
    exact hreport _ t old (List.subset_cons_self _ _) List.mem_cons_self
  · trivial

/-- Decoding a feedback frame. -/
theorem port_decode {frame : Frame} {node : UInt8} (hnode : responseNode frame = some node)
    (s : DamiaoCan) (hs : Routed deviceName s) :
    Routed deviceName (s.setMotorState node (decodeFeedback frame)) ∧
      ∀ n, (s.setMotorState node (decodeFeedback frame)).motorState n = s.motorState n ∨
        responseNode frame = some n ∧
          (s.setMotorState node (decodeFeedback frame)).motorState n =
            decodeFeedback frame (s.motorState n) := by
  refine ⟨⟨hs.device, hs.ids⟩, fun n => ?_⟩
  by_cases hn : n = node
  · subst hn
    exact .inr ⟨hnode, by simp [setMotorState, motorState]⟩
  · exact .inl (by simp [setMotorState, motorState, put_of_ne _ _ hn])

theorem port_handleFeedback {frame : Frame} (hid : frame.id = kDamiaoMasterId)
    (g : Seen DamiaoCan) :
    (handleFeedback frame).wp (port deviceName (.dmReceive frame)) (fun _ _ => True) g := by
  refine (wp_ite _ _ _).2 ?_
  split
  · trivial
  next hdlc =>
    have hnode : responseNode frame = some (frame.byte 0 &&& 0x0F) :=
      if_pos ⟨hid, UInt8.not_lt.1 hdlc⟩
    refine wp_bind.2 (port_gets id fun s _ => (wp_ite _ _ _).2 ?_)
    split
    · refine wp_bind.2 ⟨port_decode hnode, fun s hs => ?_⟩
      refine port_syncSharedFeedback (by simp [BusCall.tells, hnode]) fun g' t old hg ht => ?_
      exact ⟨t, ht, s, hg List.mem_cons_self, rfl⟩
    · trivial

theorem handleResponse_reporting (frame : Frame) :
    (handleResponse frame).wp (port deviceName (.dmReceive frame)) (fun _ _ => True) {} := by
  refine (wp_ite _ _ _).2 ?_
  split
  · trivial
  next hid =>
    rw [ne_eq, not_not] at hid
    refine (wp_ite _ _ _).2 ?_
    split
    · have hack : ∀ s : DamiaoCan, (matchRegisterAck frame s).2.motorStates = s.motorStates ∧
          (matchRegisterAck frame s).2.deviceName = s.deviceName ∧
          (matchRegisterAck frame s).2.systemMotorIdsByNodeId = s.systemMotorIdsByNodeId := by
        intro s
        unfold matchRegisterAck
        dsimp only
        split <;> exact ⟨rfl, rfl, rfl⟩
      have hallow : (BusCall.dmReceive frame).UpdatesDm deviceName
          fun s => (matchRegisterAck frame s).2 :=
        updatesDm_of_same _ (localUpdate_of_eq (fun s => (hack s).2.1) fun s => (hack s).2.2)
          fun s n => by rw [motorState, motorState, (hack s).1]
      refine wp_bind.2 ⟨hallow, fun s _ => (wp_ite _ _ _).2 ?_⟩
      split
      · trivial
      · exact port_handleFeedback hid _
    · exact port_handleFeedback hid _

end DamiaoCan

/-! ## every call -/

/-- **Discipline**: whatever it is asked to do, a thread reports only what it has decoded. -/
theorem reporting_code (cfg : DeviceManagerConfig) (c : BusCall) :
    (c.code cfg deviceName).wp (reporting deviceName c) (fun _ _ => True) {} := by
  by_cases hlocal : c.isLocal = true
  · refine reporting_of_local (fun frame => ⟨?_, ?_, ?_⟩) (local_code cfg hlocal)
    all_goals
      rintro rfl
      cases hlocal
  · unfold BusCall.isLocal at hlocal
    split at hlocal
    case h_1 frame => exact EyouCan.reporting_of_port (EyouCan.handleResponse_reporting frame)
    case h_2 frame => exact MtCan.reporting_of_port (MtCan.handleResponse_reporting frame)
    case h_3 frame => exact DamiaoCan.reporting_of_port (DamiaoCan.handleResponse_reporting frame)
    case h_4 id =>
      exact MtCan.reporting_of_port (wp_bind.2 (wp_mono (MtCan.enable_reporting id)
        fun _ _ _ => trivial))
    case h_5 id =>
      exact MtCan.reporting_of_port (wp_bind.2 (wp_mono (MtCan.disable_reporting id)
        fun _ _ _ => trivial))
    case h_6 => exact absurd rfl hlocal

/-! ## the device -/

/-- A device whose protocol objects belong to it and know their motors by their nodes. -/
structure Bus.Sound (deviceName : String) (b : Bus) : Prop where
  eyou : EyouCan.Sound deviceName b.eyou
  mt : Routed deviceName b.mt
  dm : Routed deviceName b.dm

/-- A device is sound when the node starts. -/
theorem sound_powerOn (shared : SharedDriverState) (options : RuntimeOptions) (t : Time) :
    (Bus.powerOn deviceName shared options t).Sound deviceName :=
  ⟨⟨routed_new rfl rfl, rfl, rfl⟩, routed_new rfl rfl, routed_new rfl rfl⟩

/-- **Step**: what its discipline allows a call leaves a sound device, and a sound device
answers as the discipline expects. -/
theorem Bus.Sound.after {b : Bus} {c : BusCall} {g : Notes} {op : BusOp} {r : op.Ans}
    (hb : b.Sound deviceName) (hop : (reporting deviceName c).allow g op) (hr : b.admits op r) :
    (reporting deviceName c).accepts g op r ∧ (b.after op r).Sound deviceName := by
  cases op with
  | eyou f =>
      obtain rfl : r = b.eyou := hr
      exact ⟨hb.eyou, (hop _ hb.eyou).1, hb.mt, hb.dm⟩
  | mt f =>
      obtain rfl : r = b.mt := hr
      exact ⟨hb.mt, hb.eyou, (hop _ hb.mt).1, hb.dm⟩
  | dm f =>
      obtain rfl : r = b.dm := hr
      exact ⟨hb.dm, hb.eyou, hb.mt, (hop _ hb.dm).1⟩
  | _ => exact ⟨trivial, hb.eyou, hb.mt, hb.dm⟩

/-- What becomes of a record in one operation of a disciplined call. -/
theorem publishes_after {b : Bus} {c : BusCall} {g : Notes} {op : BusOp} (r : op.Ans)
    (hop : (reporting deviceName c).allow g op) (key : AxisKey) :
    c.Publishes deviceName g key (b.shared.record key) ((b.after op r).shared.record key) := by
  cases op with
  | shared f => exact hop b.shared key
  | _ => exact .inl (.refl c _)

/-- What is reported is as old as a look at the clock. -/
theorem BusCall.Reports.exists_time {c : BusCall} {g : Notes} {n : UInt8}
    {old new : AxisFeedbackState} (h : c.Reports g n old new) : new.lastRxSteadyNs ∈ g.times := by
  obtain ⟨t, ht, h⟩ := h
  split at h
  · obtain ⟨-, s, -, rfl⟩ := h
    exact ht
  · obtain ⟨s, -, rfl⟩ := h
    exact ht
  · obtain ⟨s, -, rfl⟩ := h
    exact ht
  · obtain ⟨s, -, rfl⟩ := h
    exact ht
  · obtain ⟨s, -, rfl⟩ := h
    exact ht
  · exact h.elim

end CanDriver
