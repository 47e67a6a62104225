import CanDriver.Cycle.Run
import CanDriver.Joints.Lookup

/-!
# CanDriver.Cycle.Alignment

The first command after a mode switch.

A switch makes its joint wait for a command near its feedback.  The wait ends where such a
command is prepared, not where it is sent, and a hold of the commands ends it as well.  As
long as neither happens before a command is sent, the first one that is sent is aligned
(`first_dispatched_aligned`).
-/

namespace CanDriver

open Interact

/-! ## limited commands -/

/-- The limits of a joint are in order (`std::clamp` is undefined otherwise). -/
def CanDriverJointConfig.limitsOrdered (joint : CanDriverJointConfig) : Bool :=
  !joint.limits.maxPosition.lt joint.limits.minPosition

/-- Clamping a value to bounds that admit `q` does not lead past `q`. -/
theorem clamp_towards {lower upper : Double} {l q : ℚ}
    (hlower : (Double.finite q).lt lower = false) (hupper : upper.lt (.finite q) = false) :
    ∃ c, (Double.finite l).clamp lower upper = .finite c ∧
      (c = l ∨ l ≤ c ∧ c ≤ q ∨ q ≤ c ∧ c ≤ l) := by
  rw [Double.clamp]
  cases hl : (Double.finite l).lt lower with
  | true =>
      rw [if_pos rfl]
      cases lower with
      | finite m =>
          simp only [Double.lt, decide_eq_true_eq, decide_eq_false_iff_not, not_lt] at hl hlower
          exact ⟨m, rfl, .inr (.inl ⟨hl.le, hlower⟩)⟩
      | inf negative => cases negative <;> simp [Double.lt] at hl hlower
      | nan => simp [Double.lt] at hl
  | false =>
      rw [if_neg Bool.false_ne_true]
      cases hu : upper.lt (.finite l) with
      | true =>
          rw [if_pos rfl]
          cases upper with
          | finite m =>
              simp only [Double.lt, decide_eq_true_eq, decide_eq_false_iff_not, not_lt] at hu hupper
              exact ⟨m, rfl, .inr (.inr ⟨hupper, hu.le⟩)⟩
          | inf negative => cases negative <;> simp [Double.lt] at hu hupper
          | nan => simp [Double.lt] at hu
      | false => exact ⟨l, rfl, .inl rfl⟩

/-- A clamped value lies within ordered bounds. -/
theorem clamp_within {value lower upper : Double} {q : ℚ}
    (hordered : upper.lt lower = false) (h : value.clamp lower upper = .finite q) :
    (Double.finite q).lt lower = false ∧ upper.lt (.finite q) = false := by
  rw [Double.clamp] at h
  have hirrefl : ∀ q : ℚ, (Double.finite q).lt (.finite q) = false := by
    intro q
    simp [Double.lt]
  split at h
  · subst h
    exact ⟨hirrefl q, hordered⟩
  · next hl =>
    split at h
    · subst h
      exact ⟨hordered, hirrefl q⟩
    · next hu =>
      subst h
      exact ⟨Bool.not_eq_true _ ▸ hl, Bool.not_eq_true _ ▸ hu⟩

/-- What is nearer to the feedback is aligned as well. -/
theorem alignedWith_nearer {joint : CanDriverJointConfig} {p q x : ℚ}
    (hactual : joint.actualFeedbackValue = .finite p) (h : joint.alignedWith (.finite q) = true)
    (hx : |x - p| ≤ |q - p|) : joint.alignedWith (.finite x) = true := by
  rw [CanDriverJointConfig.alignedWith, hactual] at h ⊢
  simp only [Double.isFinite, Double.sub, Double.neg, Double.add, Double.abs, Bool.true_and,
    ← sub_eq_add_neg] at h ⊢
  cases htol : joint.alignmentTolerance with
  | finite t =>
      rw [htol] at h
      simp only [Double.le, decide_eq_true_eq] at h ⊢
      exact hx.trans h
  | inf negative =>
      rw [htol] at h
      cases negative
      · rfl
      · simp [Double.le] at h
  | nan =>
      rw [htol] at h
      simp [Double.le] at h

/-- A value between the feedback and an aligned command is aligned. -/
theorem alignedWith_between {joint : CanDriverJointConfig} {p q x : ℚ}
    (hactual : joint.actualFeedbackValue = .finite p) (h : joint.alignedWith (.finite q) = true)
    (hx : p ≤ x ∧ x ≤ q ∨ q ≤ x ∧ x ≤ p) : joint.alignedWith (.finite x) = true := by
  refine alignedWith_nearer hactual h ?_
  rcases hx with hx | hx
  · rw [abs_of_nonneg (by linarith), abs_of_nonneg (by linarith)]
    linarith
  · rw [abs_of_nonpos (by linarith), abs_of_nonpos (by linarith)]
    linarith

/-- Clamping a value between the feedback and a clamped aligned command gives an aligned
command. -/
theorem alignedWith_clamp {joint : CanDriverJointConfig} {p q l : ℚ} {value : Double}
    (hordered : joint.limitsOrdered = true) (hposition : joint.usesVelocity = false)
    (hactual : joint.actualFeedbackValue = .finite p)
    (hvalue : clampWithJointLimits joint value = .finite q)
    (h : joint.alignedWith (.finite q) = true) (hl : p ≤ l ∧ l ≤ q ∨ q ≤ l ∧ l ≤ p) :
    joint.alignedWith (clampWithJointLimits joint (.finite l)) = true := by
  have hbetween := alignedWith_between hactual h hl
  rw [clampWithJointLimits] at hvalue ⊢
  rw [hposition] at hvalue ⊢
  cases hhas : joint.hasLimits with
  | false => exact hbetween
  | true =>
      cases hpos : joint.limits.hasPositionLimits with
      | false => exact hbetween
      | true =>
          obtain ⟨v, rfl⟩ : ∃ v, value = .finite v := by
            cases value with
            | finite v => exact ⟨v, rfl⟩
            | inf negative => simp [hhas, Double.isFinite] at hvalue
            | nan => simp [hhas, Double.isFinite] at hvalue
          simp only [hhas, hpos, Bool.not_true, Bool.or_self, Bool.false_eq_true,
            ↓reduceIte, Bool.false_and, Bool.not_false, Bool.true_and, Double.isFinite]
            at hvalue ⊢
          rw [CanDriverJointConfig.limitsOrdered, Bool.not_eq_true'] at hordered
          obtain ⟨hlower, hupper⟩ := clamp_within hordered hvalue
          obtain ⟨c, hc, hcase⟩ := clamp_towards (l := l) hlower hupper
          rw [hc]
          refine alignedWith_between hactual h ?_
          rcases hcase with rfl | hcase | hcase
          · exact hl
          · rcases hl with hl | hl
            · exact .inl ⟨hl.1.trans hcase.1, hcase.2⟩
            · have heq : c = q := le_antisymm hcase.2 (hl.1.trans hcase.1)
              exact .inr ⟨heq.ge, heq.le.trans (hl.1.trans hl.2)⟩
          · rcases hl with hl | hl
            · have heq : c = q := le_antisymm (hcase.2.trans hl.2) hcase.1
              exact .inl ⟨(hl.1.trans hl.2).trans heq.ge, heq.le⟩
            · exact .inr ⟨hcase.1, hcase.2.trans hl.2⟩

/-- **The step limit** keeps an aligned command aligned. -/
theorem alignedWith_limitPositionStep (config : WriteConfig) {joint : CanDriverJointConfig}
    (hordered : joint.limitsOrdered = true) (value : Double)
    (h : joint.alignedWith (clampWithJointLimits joint value) = true) :
    joint.alignedWith (limitPositionStep config joint (clampWithJointLimits joint value)) = true := by
  rw [limitPositionStep]
  split
  · next hlimited =>
    simp only [Bool.and_eq_true, Bool.not_eq_true'] at hlimited
    obtain ⟨⟨⟨hposition, hstep⟩, hfinite⟩, hpos⟩ := hlimited
    have hactual : joint.actualFeedbackValue = joint.pos := by
      rw [CanDriverJointConfig.actualFeedbackValue, hposition]
      rfl
    cases hp : joint.pos with
    | inf negative => simp [hp, Double.isFinite] at hpos
    | nan => simp [hp, Double.isFinite] at hpos
    | finite p =>
        cases hq : clampWithJointLimits joint value with
        | inf negative => simp [hq, Double.isFinite] at hfinite
        | nan => simp [hq, Double.isFinite] at hfinite
        | finite q =>
            rw [hp] at hactual
            rw [hq] at h
            dsimp only
            split
            · next hfar =>
              cases hm : config.maxPositionStepRad with
              | inf negative =>
                  rw [hm] at hfar hstep
                  cases negative <;> simp [Double.lt, Double.sub, Double.add, Double.neg, Double.abs]
                    at hfar hstep
              | nan =>
                  rw [hm] at hstep
                  simp [Double.lt] at hstep
              | finite m =>
                  rw [hm] at hfar hstep
                  simp only [Double.lt, Double.sub, Double.neg, Double.add, Double.abs,
                    decide_eq_true_eq, ← sub_eq_add_neg] at hfar hstep
                  by_cases hneg : q - p < 0
                  · simp only [Double.sub, Double.neg, Double.add, Double.isNegative,
                      ← sub_eq_add_neg, hneg, decide_true, ↓reduceIte]
                    rw [abs_of_neg hneg] at hfar
                    refine alignedWith_clamp hordered hposition hactual hq h (.inr ?_)
                    constructor <;> linarith
                  · simp only [Double.sub, Double.neg, Double.add, Double.isNegative,
                      ← sub_eq_add_neg, hneg, decide_false, Bool.false_eq_true, ↓reduceIte]
                    rw [abs_of_nonneg (not_lt.1 hneg)] at hfar
                    refine alignedWith_clamp hordered hposition hactual hq h (.inl ?_)
                    constructor <;> linarith
            · refine alignedWith_clamp hordered hposition hactual hq h ?_
              rcases le_total p q with hle | hle
              · exact .inl ⟨hle, le_refl q⟩
              · exact .inr ⟨le_refl q, hle⟩
  · exact h

/-! ## what a critical section leaves alone -/

/-- Whether a value is aligned with the joint at an index. -/
def CanDriverHW.aligned (hw : CanDriverHW) (index : Nat) (value : Double) : Bool :=
  (hw.joints[index]?).any fun joint => joint.alignedWith value

/-- Whether the joint at an index waits for an aligned command. -/
def CanDriverHW.waiting (hw : CanDriverHW) (index : Nat) : Bool :=
  (hw.joints[index]?).any CanDriverJointConfig.requireCommandAlignment

/-- Whether the limits of the joint at an index are in order. -/
def CanDriverHW.limitsOrdered (hw : CanDriverHW) (index : Nat) : Bool :=
  (hw.joints[index]?).any CanDriverJointConfig.limitsOrdered

/-- The command `PrepareCommands` has for the joint at an index, before it is scaled. -/
def preparedValue (config : WriteConfig) (now : Time) (hw : CanDriverHW) (index : Nat) :
    Option Double :=
  (scannedJoints config now hw.joints).2[index]?.bind
    (commandValue config now (scannedJoints config now hw.joints).1)

/-- Two records of a joint that agree in the wait, in the limits and in what an alignment
check looks at. -/
structure CanDriverJointConfig.SameAlignment (joint joint' : CanDriverJointConfig) : Prop where
  waits : joint'.requireCommandAlignment = joint.requireCommandAlignment
  ordered : joint'.limitsOrdered = joint.limitsOrdered
  aligned : ∀ value, joint'.alignedWith value = joint.alignedWith value

theorem CanDriverJointConfig.SameAlignment.refl (joint : CanDriverJointConfig) :
    joint.SameAlignment joint :=
  ⟨rfl, rfl, fun _ => rfl⟩

/-- Clearing a direct command leaves the alignment alone. -/
theorem sameAlignment_clearDirectCommand (joint : CanDriverJointConfig) :
    joint.SameAlignment joint.clearDirectCommand := by
  rw [CanDriverJointConfig.clearDirectCommand]
  split
  · exact ⟨rfl, rfl, fun _ => rfl⟩
  · exact ⟨rfl, rfl, fun _ => rfl⟩

/-- So does holding the command. -/
theorem sameAlignment_holdCommand (joint : CanDriverJointConfig) :
    joint.SameAlignment joint.holdCommand := by
  rw [CanDriverJointConfig.holdCommand]
  dsimp only
  split
  · exact ⟨rfl, rfl, fun _ => rfl⟩
  · exact ⟨rfl, rfl, fun _ => rfl⟩

/-- The passive operations leave the alignment alone. -/
theorem sameAlignment_passive (c : HwCore) {op : HwOp} (hop : Passive op) (index : Nat) :
    (c.after op).hw.waiting index = c.hw.waiting index ∧
      ∀ value, (c.after op).hw.aligned index value = c.hw.aligned index value := by
  cases op with
  | hw op =>
      cases op with
      | clearGroup group =>
          simp only [HwCore.after, JointOp.apply, clearGroupCommands, CanDriverHW.waiting,
            CanDriverHW.aligned, List.getElem?_mapIdx]
          cases c.hw.joints[index]? with
          | none => exact ⟨rfl, fun _ => rfl⟩
          | some joint =>
              have hheld := sameAlignment_holdCommand joint
              simp only [Option.map_some, Option.any_some]
              split
              · exact ⟨hheld.waits, hheld.aligned⟩
              · exact ⟨rfl, fun _ => rfl⟩
      | noteStopIssued k issued =>
          simp only [HwCore.after, JointOp.apply, CanDriverHW.noteStopIssued, CanDriverHW.waiting,
            CanDriverHW.aligned, List.getElem?_modify]
          cases c.hw.joints[index]? with
          | none => exact ⟨by simp, fun _ => by simp⟩
          | some joint =>
              simp only [Option.map_eq_map, Option.map_some, Option.any_some]
              split
              · exact ⟨rfl, fun _ => rfl⟩
              · exact ⟨rfl, fun _ => rfl⟩
      | read => exact ⟨rfl, fun _ => rfl⟩
      | invalidate => exact ⟨rfl, fun _ => rfl⟩
      | hold => exact hop.elim
      | limit limiter => exact hop.elim
      | prepare config now => exact hop.elim
  | _ => exact ⟨rfl, fun _ => rfl⟩

/-- The limits of a cycle leave the wait alone. -/
theorem waiting_enforceLimits (limiter : CommandLimiter) (hw : CanDriverHW) (index : Nat) :
    (hw.enforceLimits limiter).waiting index = hw.waiting index := by
  simp only [CanDriverHW.waiting, CanDriverHW.enforceLimits, List.getElem?_mapIdx]
  cases hw.joints[index]? <;> rfl

/-- Other commands and other feedback leave it alone too. -/
theorem waiting_sameButCommands {hw : CanDriverHW} {joints : List CanDriverJointConfig}
    (h : List.Forall₂ CanDriverJointConfig.SameButCommands hw.joints joints) (index : Nat) :
    CanDriverHW.waiting { hw with joints } index = hw.waiting index := by
  have hget := List.forall₂_iff_get.1 h
  simp only [CanDriverHW.waiting]
  by_cases hlt : index < joints.length
  · have hlt' : index < hw.joints.length := hget.1 ▸ hlt
    have hsame : CanDriverJointConfig.SameButCommands hw.joints[index] joints[index] :=
      hget.2 index hlt' hlt
    rw [List.getElem?_eq_getElem hlt, List.getElem?_eq_getElem hlt', Option.any_some,
      Option.any_some, hsame]
  · have hge' : hw.joints.length ≤ index := hget.1 ▸ Nat.le_of_not_lt hlt
    rw [List.getElem?_eq_none (Nat.le_of_not_lt hlt), List.getElem?_eq_none hge']

/-! ## preparing a command -/

/-- The first loop leaves the alignment of every joint alone. -/
theorem forall₂_scannedJoints (config : WriteConfig) (now : Time)
    (joints : List CanDriverJointConfig) :
    List.Forall₂ CanDriverJointConfig.SameAlignment joints (scannedJoints config now joints).2 := by
  have hrefl : ∀ joints : List CanDriverJointConfig,
      List.Forall₂ CanDriverJointConfig.SameAlignment joints joints :=
    fun joints => List.forall₂_same.2 fun joint _ => .refl joint
  rw [scannedJoints]
  split
  · exact hrefl joints
  · induction joints with
    | nil => exact .nil
    | cons joint joints ih =>
        rw [scanDirectCommands]
        split
        · exact .cons (.refl joint) ih
        · split
          · exact hrefl (joint :: joints)
          · exact .cons (sameAlignment_clearDirectCommand joint) ih

/-- The joint at an index, after the first loop. -/
theorem scannedJoints_getElem? (config : WriteConfig) (now : Time) {hw : CanDriverHW}
    {index : Nat} {joint : CanDriverJointConfig} (h : hw.joints[index]? = some joint) :
    ∃ scanned, (scannedJoints config now hw.joints).2[index]? = some scanned ∧
      joint.SameAlignment scanned := by
  obtain ⟨hlength, hget⟩ := List.forall₂_iff_get.1 (forall₂_scannedJoints config now hw.joints)
  obtain ⟨hlt, heq⟩ := List.getElem?_eq_some_iff.1 h
  have hlt' : index < (scannedJoints config now hw.joints).2.length := hlength ▸ hlt
  have hsame := hget index hlt hlt'
  rw [List.get_eq_getElem, List.get_eq_getElem, heq] at hsame
  exact ⟨_, List.getElem?_eq_getElem hlt', hsame⟩

/-- A joint that is prepared keeps what an alignment check looks at. -/
theorem alignedWith_preparedJoint (config : WriteConfig) (now : Time) (active : Bool)
    (joint : CanDriverJointConfig) (value : Double) :
    (preparedJoint config now active joint).alignedWith value = joint.alignedWith value := by
  have hcleared : (if joint.hasDirectCommand && !usesDirectCommand config now joint then
      joint.clearDirectCommand else joint).alignedWith value = joint.alignedWith value := by
    split
    · exact (sameAlignment_clearDirectCommand joint).aligned value
    · rfl
  rw [preparedJoint]
  split
  · exact hcleared
  · exact hcleared

/-- A joint without a command goes on waiting. -/
theorem requireCommandAlignment_preparedJoint (config : WriteConfig) (now : Time) (active : Bool)
    (joint : CanDriverJointConfig) (h : commandValue config now active joint = none) :
    (preparedJoint config now active joint).requireCommandAlignment =
      joint.requireCommandAlignment := by
  rw [preparedJoint, h]
  dsimp only [Option.isSome_none]
  rw [if_neg Bool.false_ne_true]
  split
  · exact (sameAlignment_clearDirectCommand joint).waits
  · rfl

/-- The command of a waiting joint is aligned. -/
theorem alignedWith_commandValue (config : WriteConfig) (now : Time) (active : Bool)
    {joint : CanDriverJointConfig} {value : Double} (hwaits : joint.requireCommandAlignment = true)
    (hordered : joint.limitsOrdered = true)
    (h : commandValue config now active joint = some value) : joint.alignedWith value = true := by
  rw [commandValue] at h
  obtain ⟨_, h⟩ := Option.ite_none_left_eq_some.1 h
  obtain ⟨haligned, h⟩ := Option.ite_none_left_eq_some.1 h
  rw [hwaits, Bool.true_and, Bool.not_eq_true', Bool.not_eq_false] at haligned
  rw [← Option.some.inj h]
  exact alignedWith_limitPositionStep config hordered _ haligned

/-- The joints after the preparation. -/
theorem prepareCommands_getElem? (config : WriteConfig) (now : Time) (hw : CanDriverHW)
    (index : Nat) :
    (prepareCommands config now hw).joints[index]? =
      (scannedJoints config now hw.joints).2[index]?.map
        (preparedJoint config now (scannedJoints config now hw.joints).1) := by
  simp only [prepareCommands, prepareJoints, List.map_map, List.getElem?_map]
  rfl

/-- A waiting joint without a command goes on waiting. -/
theorem waiting_prepareCommands (config : WriteConfig) (now : Time) {hw : CanDriverHW}
    {index : Nat} (hwaits : hw.waiting index = true)
    (h : preparedValue config now hw index = none) :
    (prepareCommands config now hw).waiting index = true := by
  obtain ⟨joint, hjoint, hwaits⟩ := (Option.any_eq_true _ _).1 hwaits
  obtain ⟨scanned, hscanned, hsame⟩ := scannedJoints_getElem? config now hjoint
  rw [preparedValue, hscanned, Option.bind_some] at h
  rw [CanDriverHW.waiting, prepareCommands_getElem?, hscanned, Option.map_some, Option.any_some,
    requireCommandAlignment_preparedJoint config now _ scanned h, hsame.waits]
  exact hwaits

/-- **Preparation**: the command prepared for a waiting joint is aligned. -/
theorem aligned_prepareCommands (config : WriteConfig) (now : Time) {hw : CanDriverHW}
    {index : Nat} (hwaits : hw.waiting index = true) (hordered : hw.limitsOrdered index = true)
    {value : Double} (h : preparedValue config now hw index = some value) :
    (prepareCommands config now hw).aligned index value = true := by
  obtain ⟨joint, hjoint, hwaits⟩ := (Option.any_eq_true _ _).1 hwaits
  obtain ⟨scanned, hscanned, hsame⟩ := scannedJoints_getElem? config now hjoint
  rw [CanDriverHW.limitsOrdered, hjoint, Option.any_some] at hordered
  rw [preparedValue, hscanned, Option.bind_some] at h
  rw [CanDriverHW.aligned, prepareCommands_getElem?, hscanned, Option.map_some, Option.any_some,
    alignedWith_preparedJoint]
  exact alignedWith_commandValue config now _ (hsame.waits.trans hwaits)
    (hsame.ordered.trans hordered) h

/-- Only a joint with a command has a valid one. -/
theorem valid_prepareCommands (config : WriteConfig) (now : Time) (c : HwCore) {index : Nat}
    (h : (c.after (.hw (.prepare config now))).valid index = true) :
    (preparedValue config now c.hw index).isSome = true := by
  simp only [HwCore.valid, HwCore.after, JointOp.apply, prepareCommands, prepareJoints,
    List.map_map, List.getElem?_map] at h
  rw [preparedValue]
  cases hscanned : (scannedJoints config now c.hw.joints).2[index]? with
  | none =>
      rw [hscanned] at h
      exact absurd h Bool.false_ne_true
  | some scanned =>
      rw [hscanned] at h
      have hraw : ((commandValue config now (scannedJoints config now c.hw.joints).1 scanned).bind
          (rawCommand scanned)).isSome = true := h
      exact Option.isSome_of_isSome_bind hraw

/-! ## what is noted -/

/-- What is noted for one joint since its last switch: whether its first command is still to
be sent, and the command last prepared for it; whether the wait was left alone until then, and
whether every first command that was sent was aligned with the feedback of its cycle. -/
structure AlignNotes where
  pending : Bool := false
  value : Option Double := none
  undisturbed : Bool := true
  sentAligned : Bool := true
deriving DecidableEq, Repr

namespace AlignNotes

/-- What is noted of an operation.  The wait is disturbed by a hold, by a preparation that
finds an earlier command still unsent, and by limits that are not in order. -/
def note (index : Nat) (c : HwCore) : HwOp → AlignNotes → AlignNotes
  | .hw .hold, n => { n with undisturbed := n.undisturbed && !n.pending }
  | .hw (.prepare config now), n =>
      { n with
        undisturbed := n.undisturbed &&
          (!n.pending || n.value.isNone && c.hw.limitsOrdered index)
        value := preparedValue config now c.hw index }
  | .send sent _ _ _ _ _, n =>
      if sent = index then
        { n with
          sentAligned := n.sentAligned && (!n.pending || n.value.any (c.hw.aligned index))
          pending := false }
      else n
  | _, n => n

/-- What is noted between the cycles: a switch of the joint. -/
def seen (index : Nat) (c : HwCore) : CycleEvent → HwCore → AlignNotes → AlignNotes
  | .switch motorId _, _, n =>
      if (c.hw.matchedJoint motorId).map Prod.fst = some index then
        { n with pending := true, value := none }
      else n
  | _, _, n => n

end AlignNotes

/-! ## the invariants -/

variable {index : Nat}

/-- As long as nothing disturbed it, a joint that was switched waits until a command is
prepared for it. -/
def Aligning (index : Nat) (s : HwCore × AlignNotes) : Prop :=
  s.2.undisturbed = true →
    s.2.sentAligned = true ∧
      (s.2.pending = true → s.2.value = none → s.1.hw.waiting index = true)

/-- In a dispatch its command is aligned, if it has one. -/
def DispatchingAligned (index : Nat) (s : HwCore × AlignNotes) : Prop :=
  Aligning index s ∧
    (s.2.undisturbed = true → s.2.pending = true → s.1.valid index = true →
      s.2.value.any (s.1.hw.aligned index) = true)

/-- The commands are held, with no first command still to be sent. -/
def HeldAligned (index : Nat) (s : HwCore × AlignNotes) : Prop :=
  Aligning index s ∧ (s.2.undisturbed = true → s.2.pending = false)

/-- Nothing is noted of a passive operation. -/
theorem AlignNotes.note_passive (c : HwCore) {op : HwOp} (hop : Passive op) (n : AlignNotes) :
    AlignNotes.note index c op n = n := by
  cases op with
  | hw op =>
      cases op with
      | hold => exact hop.elim
      | prepare config now => exact hop.elim
      | _ => rfl
  | send sent route device protocol motorId raw => exact hop.elim
  | _ => rfl

/-- What waits the same and is noted the same is as good. -/
theorem Aligning.congr {s : HwCore × AlignNotes} {c : HwCore} (h : Aligning index s)
    (hwaiting : c.hw.waiting index = s.1.hw.waiting index) : Aligning index (c, s.2) := by
  intro hundisturbed
  obtain ⟨hsent, hwaits⟩ := h hundisturbed
  exact ⟨hsent, fun hpending hvalue => hwaiting.trans (hwaits hpending hvalue)⟩

/-- A hold disturbs a joint that waits. -/
theorem heldAligned_hold {s : HwCore × AlignNotes} (h : Aligning index s) :
    HeldAligned index (s.1.after (.hw .hold), AlignNotes.note index s.1 (.hw .hold) s.2) := by
  have hsplit : (AlignNotes.note index s.1 (.hw .hold) s.2).undisturbed = true →
      s.2.undisturbed = true ∧ s.2.pending = false := by
    intro hundisturbed
    rw [AlignNotes.note] at hundisturbed
    rw [Bool.and_eq_true, Bool.not_eq_true'] at hundisturbed
    exact hundisturbed
  refine ⟨fun hundisturbed => ?_, fun hundisturbed => (hsplit hundisturbed).2⟩
  obtain ⟨hbefore, hpending⟩ := hsplit hundisturbed
  refine ⟨(h hbefore).1, fun hstill => ?_⟩
  have hstill : s.2.pending = true := hstill
  rw [hpending] at hstill
  exact absurd hstill Bool.false_ne_true

/-- The preparation of a cycle. -/
theorem dispatchingAligned_prepare (config : WriteConfig) (now : Time) {s : HwCore × AlignNotes}
    (h : Aligning index s) :
    DispatchingAligned index
      (s.1.after (.hw (.prepare config now)),
        AlignNotes.note index s.1 (.hw (.prepare config now)) s.2) := by
  have hsplit : (AlignNotes.note index s.1 (.hw (.prepare config now)) s.2).undisturbed = true →
      s.2.undisturbed = true ∧ (s.2.pending = true →
        s.2.value = none ∧ s.1.hw.limitsOrdered index = true) := by
    intro hundisturbed
    rw [AlignNotes.note] at hundisturbed
    rw [Bool.and_eq_true, Bool.or_eq_true, Bool.and_eq_true, Bool.not_eq_true',
      Option.isNone_iff_eq_none] at hundisturbed
    refine ⟨hundisturbed.1, fun hpending => ?_⟩
    rw [hpending] at hundisturbed
    exact hundisturbed.2.resolve_left Bool.false_ne_true.symm
  constructor
  · intro hundisturbed
    obtain ⟨hbefore, hclean⟩ := hsplit hundisturbed
    refine ⟨(h hbefore).1, fun hpending hvalue => ?_⟩
    exact waiting_prepareCommands config now ((h hbefore).2 hpending (hclean hpending).1) hvalue
  · intro hundisturbed hpending hvalid
    obtain ⟨hbefore, hclean⟩ := hsplit hundisturbed
    obtain ⟨hnone, hordered⟩ := hclean hpending
    obtain ⟨value, hvalue⟩ := Option.isSome_iff_exists.1 (valid_prepareCommands config now s.1 hvalid)
    have haligned := aligned_prepareCommands config now ((h hbefore).2 hpending hnone) hordered hvalue
    have hnoted : (AlignNotes.note index s.1 (.hw (.prepare config now)) s.2).value = some value :=
      hvalue
    rw [hnoted, Option.any_some]
    exact haligned

/-- **The rule of the alignment**: what holds in a dispatch survives all that happens in one. -/
theorem alignRule (index : Nat) :
    DispatchRule (AlignNotes.note index) (DispatchingAligned index) (HeldAligned index) where
  passive s op hop h := by
    obtain ⟨hwaiting, haligned⟩ := sameAlignment_passive s.1 hop index
    rw [AlignNotes.note_passive s.1 hop]
    refine ⟨h.1.congr hwaiting, fun hundisturbed hpending hvalid => ?_⟩
    have hsame : (s.1.after op).hw.aligned index = s.1.hw.aligned index := funext haligned
    have hbefore : s.1.valid index = true := by
      by_contra hinvalid
      rw [valid_passive s.1 hop (Bool.eq_false_of_not_eq_true hinvalid)] at hvalid
      exact absurd hvalid Bool.false_ne_true
    rw [hsame]
    exact h.2 hundisturbed hpending hbefore
  hold s h := heldAligned_hold h.1
  arm s h := by
    refine ⟨h.1, fun hundisturbed hpending => ?_⟩
    have hdone : s.2.pending = false := h.2 hundisturbed
    have hpending : s.2.pending = true := hpending
    rw [hdone] at hpending
    exact absurd hpending Bool.false_ne_true
  send s sent route device protocol motorId raw h hvalid := by
    rw [AlignNotes.note]
    split
    · next heq =>
      subst heq
      refine ⟨fun hundisturbed => ?_, fun _ hpending => absurd hpending Bool.false_ne_true⟩
      refine ⟨?_, fun hpending => absurd hpending Bool.false_ne_true⟩
      dsimp only
      rw [(h.1 hundisturbed).1, Bool.true_and, Bool.or_eq_true, Bool.not_eq_true']
      by_cases hpending : s.2.pending = true
      · exact .inr (h.2 hundisturbed hpending hvalid)
      · exact .inl (Bool.eq_false_of_not_eq_true hpending)
    · exact h

/-! ## cycles -/

/-- What leaves the wait alone and is not noted keeps the invariant. -/
theorem aligning_hw (op : JointOp) {s : HwCore × AlignNotes} (h : Aligning index s)
    (hwaiting : (op.apply s.1.hw).waiting index = s.1.hw.waiting index)
    (hnote : AlignNotes.note index s.1 (.hw op) s.2 = s.2) :
    Aligning index (s.1.after (.hw op), AlignNotes.note index s.1 (.hw op) s.2) := by
  rw [hnote]
  exact h.congr hwaiting

/-- The commands of a cycle. -/
theorem wp_commandCycle_aligning (config : WriteConfig) (limiter : CommandLimiter)
    (groups : List CanDriverDeviceProtocolGroup) {s : HwCore × AlignNotes}
    (h : Aligning index s) :
    (commandCycle config limiter groups).wp (noting (AlignNotes.note index))
      (fun _ => Aligning index) s := by
  rw [commandCycle, Prog.wp_bind, modifyHw, Prog.wp_bind]
  refine wp_askHw fun _ _ => ?_
  have hlimited := aligning_hw (.limit limiter) h (waiting_enforceLimits limiter _ index) rfl
  rw [Prog.pure_eq, Prog.wp_ret, Prog.wp_bind]
  refine wp_askHw fun now _ => ?_
  rw [Prog.wp_bind]
  refine wp_askHw fun hw _ => ?_
  have hprepared := dispatchingAligned_prepare config now hlimited
  exact Prog.wp_mono ((alignRule index).wp_dispatch config _ false groups hprepared)
    fun _ s hs => hs.1

/-- The latch leaves the joints alone. -/
theorem wp_consumeFreshCommandLatch_aligning {s : HwCore × AlignNotes} (h : Aligning index s) :
    consumeFreshCommandLatchIfSatisfied.wp (noting (AlignNotes.note index))
      (fun _ => Aligning index) s := by
  rw [consumeFreshCommandLatchIfSatisfied, Prog.wp_bind]
  refine wp_askHw fun gate _ => ?_
  rw [Prog.wp_ite]
  split
  · exact h
  · rw [Prog.wp_bind]
    refine wp_askHw fun hw _ => ?_
    rw [Prog.wp_bind]
    exact wp_askHw fun gate _ => h

/-- A cycle keeps the invariant. -/
theorem wp_write_aligning (config : WriteConfig) (limiter : CommandLimiter)
    (groups : List CanDriverDeviceProtocolGroup) {s : HwCore × AlignNotes}
    (h : Aligning index s) :
    (write config limiter groups).wp (atAnyMode (noting (AlignNotes.note index)))
      (fun _ => Aligning index) s := by
  have hinvalidate : ∀ s : HwCore × AlignNotes, Aligning index s →
      (driver invalidateCommands).wp (atAnyMode (noting (AlignNotes.note index)))
        (fun _ => Aligning index) s := by
    intro s hs
    refine wp_driverAny ?_
    rw [invalidateCommands, modifyHw, Prog.wp_bind]
    exact wp_askHw fun _ _ => hs
  rw [write, Prog.wp_bind]
  refine wp_driverAny (wp_askHw fun active _ => ?_)
  rw [Prog.wp_ite]
  split
  · refine wp_loadAny fun mode => ?_
    rw [Prog.wp_ite]
    split
    · rw [Prog.wp_bind]
      refine Prog.wp_mono (wp_driverAny (wp_consumeFreshCommandLatch_aligning h)) fun fresh s hs => ?_
      rw [Prog.wp_ite]
      split
      · rw [Prog.wp_bind]
        refine Prog.wp_mono (wp_driverAny (wp_commandCycle_aligning config limiter groups hs))
          fun anyFault s hs => ?_
        exact wp_reportHealth config anyFault (fun _ _ _ => rfl) hs
      · exact hinvalidate s hs
    · exact hinvalidate _ h
  · exact h

/-- A switch makes its joint wait. -/
theorem aligning_switch (motorId : MotorID) (mode : AxisControlMode) {s : HwCore × AlignNotes}
    (hok : (s.1.hw.commitModeSwitch motorId mode).1 = true) (h : Aligning index s) :
    Aligning index
      ({ s.1 with hw := (s.1.hw.commitModeSwitch motorId mode).2 },
        AlignNotes.seen index s.1 (.switch motorId mode)
          { s.1 with hw := (s.1.hw.commitModeSwitch motorId mode).2 } s.2) := by
  rw [CanDriverHW.commitModeSwitch] at hok ⊢
  cases hmatched : s.1.hw.matchedJoint motorId with
  | none =>
      rw [hmatched] at hok
      exact absurd hok Bool.false_ne_true
  | some found =>
      obtain ⟨k, joint⟩ := found
      dsimp only [AlignNotes.seen]
      rw [hmatched, Option.map_some]
      split
      · next heq =>
        have heq : k = index := Option.some.inj heq
        subst heq
        intro hundisturbed
        refine ⟨(h hundisturbed).1, fun _ _ => ?_⟩
        have hlt : k < s.1.hw.joints.length :=
          (List.getElem?_eq_some_iff.1 (CanDriverHW.matchedJoint_getElem? hmatched)).1
        simp only [CanDriverHW.waiting, CanDriverHW.setJoint]
        rw [List.getElem?_set_self hlt]
        rfl
      · next hne =>
        refine h.congr ?_
        have hne : k ≠ index := fun heq => hne (congrArg some heq)
        simp only [CanDriverHW.waiting, CanDriverHW.setJoint]
        rw [List.getElem?_set_ne hne]

/-- **Step**: every event of a run keeps the invariant. -/
theorem aligning_step (groups : List CanDriverDeviceProtocolGroup) {e : CycleEvent}
    {s s' : HwCore × AlignNotes} (h : Aligning index s)
    (hs : e.Step groups (AlignNotes.note index) (AlignNotes.seen index) s s') :
    Aligning index s' := by
  cases e with
  | change =>
      obtain ⟨joints, hsame, rfl⟩ := hs
      exact h.congr (waiting_sameButCommands hsame index)
  | switch motorId mode =>
      obtain ⟨hok, rfl⟩ := hs
      exact aligning_switch motorId mode hok h
  | hold =>
      refine Prog.Runs.of_wp (Q := fun _ => Aligning index) hs ?_
      rw [holdCommands, modifyHw, Prog.wp_bind]
      exact wp_askHw fun _ _ => (heldAligned_hold h).1
  | arm =>
      refine Prog.Runs.of_wp (Q := fun _ => Aligning index) hs ?_
      rw [armFreshCommandLatch, Prog.wp_bind]
      refine wp_askHw fun hw _ => ?_
      rw [modifyGate, Prog.wp_bind]
      exact wp_askHw fun _ _ => h
  | cycle config limiter => exact hs.of_wp (wp_write_aligning config limiter groups h)

/-- **The first command**: in every run in which nothing disturbs a switched joint before a
command is sent for it, the first command that is sent is aligned with its feedback. -/
theorem first_dispatched_aligned (groups : List CanDriverDeviceProtocolGroup) (hw : CanDriverHW)
    (index : Nat) (s : HwCore × AlignNotes)
    (hr : Reach (CycleEvent.Step groups (AlignNotes.note index) (AlignNotes.seen index))
      (fun _ _ => True) ({ hw }, {}) s)
    (hundisturbed : s.2.undisturbed = true) : s.2.sentAligned = true := by
  have hstart : Aligning index ({ hw }, {}) :=
    fun _ => ⟨rfl, fun hpending => absurd hpending Bool.false_ne_true⟩
  have hinv : Aligning index s :=
    Reach.invariant (I := Aligning index) hstart
      (fun _ _ _ h _ hs => aligning_step groups h hs) hr
  exact (hinv hundisturbed).1

/-! ## runs -/

/-- An axis at rest, to be switched to position mode. -/
def switchedJoint : CanDriverHW where
  joints :=
    [{ name := "lift", canDevice := "can0", controlMode := "velocity", motorId := 1,
       protocol := .PP }]
  commandValidBuffer := [false]

/-- The group of the axis. -/
def switchedGroup : CanDriverDeviceProtocolGroup := ⟨"can0", .PP, [0]⟩

/-- A command far from where the axis is. -/
def commandFar : CommandLimiter := fun _ joint => (.finite 100, joint.velCmd)

/-- A cycle while the axis is not enabled. -/
def answerDisabled (s : HwCore × ν) : (op : ModeOp hwSig) → Option op.Ans
  | .driver (.isEnabled _ _ _) => some false
  | op => answerRunning s op

theorem accepts_of_answerDisabled {note : HwCore → HwOp → ν → ν} {s : HwCore × ν}
    (h : answerDisabled s op = some r) : (atAnyMode (noting note)).accepts s op r := by
  cases op with
  | driver op =>
      cases op with
      | isEnabled device protocol motorId => trivial
      | _ => exact accepts_of_answerRunning h
  | _ => trivial

/-- Switched and left alone, the axis gets the command to stay where it is first. -/
theorem switched_stays :
    ∃ s, Reach (CycleEvent.Step [switchedGroup] (AlignNotes.note 0) (AlignNotes.seen 0))
      (fun _ _ => True) ({ hw := switchedJoint }, {}) s ∧
      s.2.pending = false ∧ s.1.valid 0 = true ∧ s.2.sentAligned = true := by
  obtain ⟨s, hr, htest⟩ := exists_of_playAll [switchedGroup] (AlignNotes.note 0)
    (AlignNotes.seen 0) [.switch 1 .position, .cycle {}] ({ hw := switchedJoint }, {})
    (fun s => (!s.2.pending && s.1.valid 0) && s.2.undisturbed) (by decide +kernel)
  rw [Bool.and_eq_true, Bool.and_eq_true, Bool.not_eq_true'] at htest
  exact ⟨s, hr, htest.1.1, htest.1.2,
    first_dispatched_aligned [switchedGroup] switchedJoint 0 s hr htest.2⟩

/-- A cycle before the axis is enabled ends the wait; enabled, it is sent far away at once. -/
theorem blocked_cycle_releases :
    ∃ s, Reach (CycleEvent.Step [switchedGroup] (AlignNotes.note 0) (AlignNotes.seen 0))
      (fun _ _ => True) ({ hw := switchedJoint }, {}) s ∧ s.2.sentAligned = false := by
  have hrun : (((playAll [switchedGroup] (AlignNotes.note 0) (AlignNotes.seen 0)
      [.switch 1 .position] ({ hw := switchedJoint }, {})).bind fun s =>
        ((write {} keepCommands [switchedGroup]).run (atAnyMode (noting (AlignNotes.note 0)))
          answerDisabled s).map Prod.snd).bind
      (playAll [switchedGroup] (AlignNotes.note 0) (AlignNotes.seen 0)
        [.command commandFar, .cycle {}])).any (fun s => !s.2.sentAligned) = true := by
    decide +kernel
  obtain ⟨s, hplayed, htest⟩ := (Option.any_eq_true _ _).1 hrun
  obtain ⟨s₂, hblocked, hafter⟩ := Option.bind_eq_some_iff.1 hplayed
  obtain ⟨s₁, hswitched, hcycle⟩ := Option.bind_eq_some_iff.1 hblocked
  have hstep : (CycleEvent.cycle {} keepCommands).Step [switchedGroup] (AlignNotes.note 0)
      (AlignNotes.seen 0) s₁ s₂ :=
    runs_of_map_run (fun _ _ _ => accepts_of_answerDisabled) hcycle
  exact ⟨s, reach_of_playAll ((reach_of_playAll .refl hswitched).step trivial hstep) hafter,
    Bool.not_eq_true' _ ▸ htest⟩

end CanDriver
