import CanDriver.Cycle.Watch

/-!
# CanDriver.Cycle.FaultStop

The stop that a control cycle sends to an axis with a fault.

The flag of a joint says that its stop was sent, and nothing more: it is set before the
protocol has answered.  So in every run a flag is founded on a stop of the same fault episode
(`founded_step`), but on an accepted one only where none is rejected.
-/

namespace CanDriver

open Interact

/-! ## the groups -/

/-- A group has the joints of its device and protocol. -/
theorem rebuildJointGroups_member {hw : CanDriverHW} {group : CanDriverDeviceProtocolGroup}
    {index : Nat} {joint : CanDriverJointConfig} (hgroup : group ∈ hw.rebuildJointGroups)
    (hindex : index ∈ group.jointIndices) (hjoint : hw.joints[index]? = some joint) :
    (joint.canDevice, joint.protocol) = (group.canDevice, group.protocol) := by
  rw [CanDriverHW.rebuildJointGroups] at hgroup
  obtain ⟨key, -, rfl⟩ := List.mem_map.1 hgroup
  have hkey := (List.mem_filter.1 hindex).2
  rw [hjoint, Option.any_some, beq_iff_eq] at hkey
  exact hkey

/-! ## the flags of the joints -/

/-- The axis a stop is sent to. -/
abbrev StopAxis := String × CanType × MotorID

/-- The axis of a joint, and whether its flag is set. -/
def CanDriverJointConfig.stopView (joint : CanDriverJointConfig) : StopAxis × Bool :=
  ((joint.canDevice, joint.protocol, joint.motorId), joint.stopIssuedOnFault)

/-- The axes of all joints, with their flags. -/
def CanDriverHW.stopViews (hw : CanDriverHW) : List (StopAxis × Bool) :=
  hw.joints.map CanDriverJointConfig.stopView

theorem stopView_holdCommand (joint : CanDriverJointConfig) :
    joint.holdCommand.stopView = joint.stopView := by
  rw [CanDriverJointConfig.holdCommand]
  dsimp only
  split
  · rfl
  · rfl

theorem stopView_clearDirectCommand (joint : CanDriverJointConfig) :
    joint.clearDirectCommand.stopView = joint.stopView := by
  rw [CanDriverJointConfig.clearDirectCommand]
  split
  · rfl
  · rfl

@[simp] theorem stopViews_hold (hw : CanDriverHW) :
    hw.holdCommandsForLifecycleTransition.stopViews = hw.stopViews := by
  simp only [CanDriverHW.stopViews, CanDriverHW.holdCommandsForLifecycleTransition, List.map_map]
  exact List.map_congr_left fun joint _ => stopView_holdCommand joint

@[simp] theorem stopViews_enforceLimits (limiter : CommandLimiter) (hw : CanDriverHW) :
    (hw.enforceLimits limiter).stopViews = hw.stopViews := by
  refine List.ext_getElem? fun index => ?_
  simp only [CanDriverHW.stopViews, CanDriverHW.enforceLimits, List.getElem?_map,
    List.getElem?_mapIdx, Option.map_map]
  rfl

/-- The preparation of the commands touches no flag. -/
theorem stopViews_scannedJoints (config : WriteConfig) (now : Time)
    (joints : List CanDriverJointConfig) :
    (scannedJoints config now joints).2.map CanDriverJointConfig.stopView =
      joints.map CanDriverJointConfig.stopView := by
  rw [scannedJoints]
  split
  · rfl
  · induction joints with
    | nil => rfl
    | cons joint joints ih =>
        rw [scanDirectCommands]
        split
        · rw [List.map_cons, List.map_cons, ih]
        · split
          · rfl
          · rw [List.map_cons, List.map_cons, ih, stopView_clearDirectCommand]

theorem stopView_preparedJoint (config : WriteConfig) (now : Time) (present : Bool)
    (joint : CanDriverJointConfig) :
    (preparedJoint config now present joint).stopView = joint.stopView := by
  have hcleared : (if joint.hasDirectCommand && !usesDirectCommand config now joint then
      joint.clearDirectCommand else joint).stopView = joint.stopView := by
    split
    · exact stopView_clearDirectCommand joint
    · rfl
  rw [preparedJoint]
  split
  · exact hcleared
  · exact hcleared

@[simp] theorem stopViews_prepareCommands (config : WriteConfig) (now : Time) (hw : CanDriverHW) :
    (prepareCommands config now hw).stopViews = hw.stopViews := by
  simp only [CanDriverHW.stopViews, prepareCommands, prepareJoints, List.map_map]
  rw [← stopViews_scannedJoints config now hw.joints]
  exact List.map_congr_left fun joint _ => stopView_preparedJoint config now _ joint

/-- A command is prepared for the motor of its joint. -/
theorem preparedCommands_motorId (config : WriteConfig) (now : Time) (hw : CanDriverHW) {index : Nat}
    {command : CanDriverPreparedCommand}
    (h : (preparedCommands config now hw)[index]? = some command) :
    (hw.stopViews[index]?).map (fun view => view.1.2.2) = some command.motorId := by
  rw [← stopViews_prepareCommands config now hw]
  simp only [CanDriverHW.stopViews, prepareCommands, preparedCommands, List.getElem?_map,
    Option.map_eq_some_iff] at h ⊢
  obtain ⟨prepared, hprepared, rfl⟩ := h
  exact ⟨_, ⟨_, ⟨_, hprepared, rfl⟩, rfl⟩, rfl⟩

/-! ## what is seen of the stops -/

/-- What is noted of a dispatch: a stop that was answered, or that a joint has no fault. -/
inductive StopObservation where
  | stop (axis : StopAxis) (accepted : Bool)
  | noFault (index : Nat)
deriving DecidableEq

/-- What is noted of an operation, the latest first.  A stop that throws is not accepted. -/
def watchStops (_ : HwCore) : (op : HwOp) → op.Ans → List StopObservation → List StopObservation
  | .stop device protocol motorId, accepted, log => .stop (device, protocol, motorId) accepted :: log
  | .hw (.noteStopIssued index false), _, log => .noFault index :: log
  | _, _, log => log

/-- In the fault episode of a joint that goes on, a stop of an axis got this answer. -/
def StopAnswered (log : List StopObservation) (index : Nat) (axis : StopAxis) (accepted : Bool) :
    Prop :=
  ∃ later earlier, log = later ++ .stop axis accepted :: earlier ∧ .noFault index ∉ later

/-- An observation that does not end the episode leaves it as it is. -/
theorem StopAnswered.cons {log : List StopObservation} {index : Nat} {axis : StopAxis} {accepted : Bool}
    (h : StopAnswered log index axis accepted) {o : StopObservation} (ho : o ≠ .noFault index) :
    StopAnswered (o :: log) index axis accepted := by
  obtain ⟨later, earlier, rfl, hlater⟩ := h
  refine ⟨o :: later, earlier, rfl, fun hmem => ?_⟩
  rcases List.mem_cons.1 hmem with heq | hmem
  · exact ho heq.symm
  · exact hlater hmem

/-- Every flag that is set is founded on a stop of the episode. -/
def Founded (log : List StopObservation) (views : List (StopAxis × Bool)) : Prop :=
  ∀ index axis, views[index]? = some (axis, true) → ∃ accepted, StopAnswered log index axis accepted

theorem Founded.noFault {log : List StopObservation} {views : List (StopAxis × Bool)}
    (h : Founded log views) (k : Nat) :
    Founded (.noFault k :: log) (views.modify k fun view => (view.1, false)) := by
  intro index axis hview
  rw [List.getElem?_modify, Option.map_eq_map] at hview
  obtain ⟨view, hview, heq⟩ := Option.map_eq_some_iff.1 hview
  by_cases hk : k = index
  · rw [if_pos hk] at heq
    cases heq
  · rw [if_neg hk] at heq
    obtain ⟨accepted, hstop⟩ := h index axis (heq ▸ hview)
    exact ⟨accepted, hstop.cons (by simpa using hk)⟩

theorem Founded.stop {log : List StopObservation} {views : List (StopAxis × Bool)}
    (h : Founded log views) {k : Nat} {axis : StopAxis}
    (hk : (views[k]?).map Prod.fst = some axis) (accepted : Bool) :
    Founded (.stop axis accepted :: log) (views.modify k fun view => (view.1, true)) := by
  intro index axis' hview
  rw [List.getElem?_modify, Option.map_eq_map] at hview
  obtain ⟨view, hview, heq⟩ := Option.map_eq_some_iff.1 hview
  by_cases hindex : k = index
  · subst hindex
    rw [hview, Option.map_some, Option.some.injEq] at hk
    rw [if_pos rfl] at heq
    obtain rfl : axis = axis' := hk.symm.trans (Prod.mk.inj heq).1
    exact ⟨accepted, [], log, rfl, List.not_mem_nil⟩
  · rw [if_neg hindex] at heq
    obtain ⟨accepted', hstop⟩ := h index axis' (heq ▸ hview)
    exact ⟨accepted', hstop.cons (by simp)⟩

/-- A flag that is cleared needs no stop. -/
theorem Founded.lower {log : List StopObservation} {views views' : List (StopAxis × Bool)}
    (h : Founded log views) (hlower : ∀ (index : Nat) (axis : StopAxis),
      views'[index]? = some (axis, true) → views[index]? = some (axis, true)) : Founded log views' :=
  fun index axis hview => h index axis (hlower index axis hview)

/-! ## what a dispatch keeps -/

@[simp] theorem stopViews_noteStopIssued (hw : CanDriverHW) (k : Nat) (issued : Bool) :
    (hw.noteStopIssued k issued).stopViews =
      hw.stopViews.modify k fun view => (view.1, issued) := by
  refine List.ext_getElem? fun index => ?_
  simp only [CanDriverHW.stopViews, CanDriverHW.noteStopIssued, List.getElem?_map,
    List.getElem?_modify, Option.map_eq_map, Option.map_map]
  congr 1
  funext joint
  simp only [Function.comp_apply]
  split
  · rfl
  · rfl

@[simp] theorem stopViews_clearGroup (group : CanDriverDeviceProtocolGroup) (hw : CanDriverHW) :
    (clearGroupCommands group hw).stopViews =
      hw.stopViews.mapIdx fun index view =>
        if index ∈ group.jointIndices then (view.1, false) else view := by
  refine List.ext_getElem? fun index => ?_
  simp only [CanDriverHW.stopViews, clearGroupCommands, List.getElem?_map, List.getElem?_mapIdx,
    Option.map_map]
  congr 1
  funext joint
  simp only [Function.comp_apply]
  split
  · have hheld := congrArg Prod.fst (stopView_holdCommand joint)
    exact Prod.ext hheld rfl
  · rfl

/-- The flag of a joint, and its axis. -/
theorem stopIssued_eq (hw : CanDriverHW) (index : Nat) :
    hw.stopIssued index = (hw.stopViews[index]?).any Prod.snd := by
  rw [CanDriverHW.stopIssued, CanDriverHW.stopViews, List.getElem?_map, Option.any_map]
  rfl

/-- Every joint has its axis, and every flag is founded. -/
def StopsFounded (axes : List StopAxis) (s : HwCore × List StopObservation) : Prop :=
  s.1.hw.stopViews.map Prod.fst = axes ∧ Founded s.2 s.1.hw.stopViews

/-- Modifying a flag leaves the axes alone. -/
theorem map_fst_modify (views : List (StopAxis × Bool)) (k : Nat) (issued : Bool) :
    (views.modify k fun view => (view.1, issued)).map Prod.fst = views.map Prod.fst := by
  refine List.ext_getElem? fun index => ?_
  rw [List.getElem?_map, List.getElem?_modify, List.getElem?_map, Option.map_eq_map, Option.map_map]
  congr 1
  funext view
  simp only [Function.comp_apply]
  split
  · rfl
  · rfl

theorem map_fst_clear (views : List (StopAxis × Bool)) (indices : List Nat) :
    (views.mapIdx fun index view => if index ∈ indices then (view.1, false) else view).map Prod.fst =
      views.map Prod.fst := by
  refine List.ext_getElem? fun index => ?_
  rw [List.getElem?_map, List.getElem?_mapIdx, List.getElem?_map, Option.map_map]
  congr 1
  funext view
  simp only [Function.comp_apply]
  split
  · rfl
  · rfl

/-- Setting a flag that is set changes nothing. -/
theorem modify_of_issued {views : List (StopAxis × Bool)} {k : Nat}
    (h : (views[k]?).any Prod.snd = true) : (views.modify k fun view => (view.1, true)) = views := by
  refine List.ext_getElem? fun index => ?_
  rw [List.getElem?_modify, Option.map_eq_map]
  by_cases hk : k = index
  · subst hk
    obtain ⟨view, hview, hset⟩ := (Option.any_eq_true _ _).1 h
    rw [hview, Option.map_some, if_pos rfl]
    exact congrArg some (Prod.ext rfl hset.symm)
  · simp only [if_neg hk, Option.map_id_fun', id_eq]

/-- **Step**: all that happens in a dispatch keeps the flags founded. -/
theorem stopRule (config : WriteConfig) (groups : List CanDriverDeviceProtocolGroup)
    (prepared : List CanDriverPreparedCommand) (axes : List StopAxis)
    (haxes : ∀ group ∈ groups, ∀ index command, CommandOf group prepared index command →
      axes[index]? = some (group.canDevice, group.protocol, command.motorId)) :
    WatchRule unguarded watchStops config groups prepared (StopsFounded axes)
      (fun _ _ _ => StopsFounded axes) where
  free _ _ _ := trivial
  lost group _ s h := by
    refine ⟨?_, ?_⟩
    · exact (congrArg _ (stopViews_clearGroup group s.1.hw)).trans
        ((map_fst_clear s.1.hw.stopViews group.jointIndices).trans h.1)
    · refine Founded.lower h.2 fun index axis hview => ?_
      have hview : (clearGroupCommands group s.1.hw).stopViews[index]? = some (axis, true) := hview
      rw [stopViews_clearGroup, List.getElem?_mapIdx] at hview
      obtain ⟨view, hview, heq⟩ := Option.map_eq_some_iff.1 hview
      split at heq
      · cases heq
      · exact heq ▸ hview
  recovered group _ s h _ _ := by
    have hsame : (heldBack watchStops (looked watchStops group.canDevice true s)).1.hw.stopViews =
        s.1.hw.stopViews := stopViews_hold s.1.hw
    exact ⟨hsame ▸ h.1, hsame ▸ h.2⟩
  enter _ _ _ h _ _ _ := h
  leave _ _ _ _ h := h
  incidental group shared nowNs s op r hop _ h := by
    cases op with
    | hw op =>
        cases op with
        | read => exact h
        | _ => exact hop.elim
    | hasProtocol | lockDevice | unlockDevice | hasFault | isEnabled => exact h
    | _ => exact hop.elim
  calm group shared nowNs s index h _ := by
    have hviews := stopViews_noteStopIssued s.1.hw index false
    refine ⟨?_, ?_⟩
    · exact (congrArg _ hviews).trans ((map_fst_modify _ _ _).trans h.1)
    · exact hviews ▸ h.2.noFault index
  again group shared nowNs s index h hissued := by
    rw [stopIssued_eq] at hissued
    have hviews := (stopViews_noteStopIssued s.1.hw index true).trans (modify_of_issued hissued)
    exact ⟨hviews ▸ h.1, hviews ▸ h.2⟩
  stop group hgroup shared nowNs s index command h hcommand _ accepted := by
    have hviews := stopViews_noteStopIssued s.1.hw index true
    refine ⟨?_, ?_⟩
    · exact (congrArg _ hviews).trans ((map_fst_modify _ _ _).trans h.1)
    · have haxis := haxes group hgroup index command hcommand
      rw [← h.1, List.getElem?_map] at haxis
      exact hviews ▸ h.2.stop haxis accepted
  send _ _ _ _ _ _ _ h _ _ _ := ⟨trivial, fun _ => h⟩

/-! ## runs -/

/-- What happens to the flags: nothing raises one between the cycles, and a cycle dispatches
the commands it has prepared. -/
inductive StopEvent where
  | between
  | cycle (config : WriteConfig) (limiter : CommandLimiter)

/-- A joint that keeps its axis and has no flag raised. -/
def CanDriverJointConfig.RaisesNoFlag (joint joint' : CanDriverJointConfig) : Prop :=
  joint'.stopView.1 = joint.stopView.1 ∧
    (joint'.stopIssuedOnFault = true → joint.stopIssuedOnFault = true)

/-- One step of a run. -/
def StopEvent.Step (groups : List CanDriverDeviceProtocolGroup) (s : HwCore × List StopObservation) :
    StopEvent → HwCore × List StopObservation → Prop
  | .between, s' =>
      List.Forall₂ CanDriverJointConfig.RaisesNoFlag s.1.hw.joints s'.1.hw.joints ∧ s'.2 = s.2
  | .cycle config limiter, s' =>
      config.safetyStopOnFault = true ∧
        ∃ anyFault, Prog.Runs (watching unguarded watchStops) (commandCycle config limiter groups) s anyFault s'

/-- **Step**: every event keeps the flags founded. -/
theorem stopsFounded_step {groups : List CanDriverDeviceProtocolGroup} {axes : List StopAxis}
    (hgroups : ∀ group ∈ groups, ∀ index ∈ group.jointIndices, ∀ axis, axes[index]? = some axis →
      (axis.1, axis.2.1) = (group.canDevice, group.protocol)) {e : StopEvent}
    {s s' : HwCore × List StopObservation} (h : StopsFounded axes s) (hs : e.Step groups s s') :
    StopsFounded axes s' := by
  cases e with
  | between =>
      obtain ⟨hjoints, hlog⟩ := hs
      obtain ⟨hlength, hget⟩ := List.forall₂_iff_get.1 hjoints
      have hview : ∀ (index : Nat) (axis : StopAxis) (set : Bool),
          s'.1.hw.stopViews[index]? = some (axis, set) →
          ∃ was, s.1.hw.stopViews[index]? = some (axis, was) ∧ (set = true → was = true) := by
        intro index axis set hview
        rw [CanDriverHW.stopViews, List.getElem?_map] at hview
        obtain ⟨joint', hjoint', heq⟩ := Option.map_eq_some_iff.1 hview
        obtain ⟨hlt', rfl⟩ := List.getElem?_eq_some_iff.1 hjoint'
        have hlt : index < s.1.hw.joints.length := hlength ▸ hlt'
        obtain ⟨haxis, hflag⟩ := hget index hlt hlt'
        have hfirst : s'.1.hw.joints[index].stopView.1 = axis := congrArg Prod.fst heq
        refine ⟨s.1.hw.joints[index].stopIssuedOnFault, ?_, fun hset => hflag ?_⟩
        · rw [CanDriverHW.stopViews, List.getElem?_map, List.getElem?_eq_getElem hlt]
          exact congrArg some (Prod.ext (haxis.symm.trans hfirst) rfl)
        · exact (congrArg Prod.snd heq).trans hset
      refine ⟨?_, ?_⟩
      · rw [← h.1]
        refine List.ext_getElem (by simp [CanDriverHW.stopViews, hlength]) fun index hlt _ => ?_
        rw [List.length_map] at hlt
        obtain ⟨was, hwas, -⟩ := hview index _ _ (List.getElem?_eq_getElem hlt)
        obtain ⟨hlt', hwas⟩ := List.getElem?_eq_some_iff.1 hwas
        rw [List.getElem_map, List.getElem_map, hwas]
        rfl
      · rw [hlog]
        refine h.2.lower fun index axis hset => ?_
        obtain ⟨was, hwas, himp⟩ := hview index axis true hset
        rw [hwas, himp rfl]
  | cycle config limiter =>
      obtain ⟨-, anyFault, hs⟩ := hs
      refine Prog.Runs.of_wp (Q := fun _ => StopsFounded axes) hs ?_
      rw [commandCycle, Prog.wp_bind]
      refine wp_watchModifyHw trivial ?_
      have hlimited : StopsFounded axes (watched watchStops (.hw (.limit limiter)) s.1.hw s) := by
        have hviews := stopViews_enforceLimits limiter s.1.hw
        exact ⟨hviews ▸ h.1, hviews ▸ h.2⟩
      rw [Prog.wp_bind]
      refine wp_watchHw trivial fun now _ => ?_
      rw [Prog.wp_bind]
      refine wp_watchHw trivial fun hw hhw => ?_
      obtain rfl := hhw
      refine (stopRule config groups _ axes fun group hgroup index command hcommand => ?_).wp_dispatch
        false groups (fun _ h => h) ?_
      · have hmotor := preparedCommands_motorId config now _ hcommand.command
        obtain ⟨view, hview, hid⟩ := Option.map_eq_some_iff.1 hmotor
        have haxis : axes[index]? = some view.1 := by
          rw [← hlimited.1, List.getElem?_map]
          exact congrArg _ hview
        have hsame := hgroups group hgroup index hcommand.member view.1 haxis
        obtain ⟨hdevice, hprotocol⟩ := Prod.mk.inj hsame
        rw [haxis]
        exact congrArg some (Prod.ext hdevice (Prod.ext hprotocol hid))
      · have hviews := stopViews_prepareCommands config now
          (s.1.hw.enforceLimits limiter)
        exact ⟨hviews ▸ hlimited.1, hviews ▸ hlimited.2⟩

/-- **Stops on faults**: in every run, while the flag of a joint is set, a stop of its axis was
accepted in the fault episode that goes on, if none was rejected in it. -/
theorem stopIssued_accepted (hw : CanDriverHW) (gate : CommandGate)
    (hclear : ∀ joint ∈ hw.joints, joint.stopIssuedOnFault = false)
    (s : HwCore × List StopObservation)
    (hr : Reach (StopEvent.Step hw.rebuildJointGroups) (fun _ _ => True) (⟨hw, gate⟩, []) s)
    (index : Nat) (joint : CanDriverJointConfig) (hjoint : s.1.hw.joints[index]? = some joint)
    (hissued : joint.stopIssuedOnFault = true)
    (haccepted : ¬ StopAnswered s.2 index joint.stopView.1 false) :
    StopAnswered s.2 index joint.stopView.1 true := by
  have hstart : StopsFounded (hw.stopViews.map Prod.fst) (⟨hw, gate⟩, []) := by
    refine ⟨rfl, fun k axis hview => ?_⟩
    have hview : hw.stopViews[k]? = some (axis, true) := hview
    rw [CanDriverHW.stopViews, List.getElem?_map] at hview
    obtain ⟨joint, hjoint, heq⟩ := Option.map_eq_some_iff.1 hview
    have hset := (congrArg Prod.snd heq).symm.trans (hclear joint (List.mem_of_getElem? hjoint))
    cases hset
  have hgroups : ∀ group ∈ hw.rebuildJointGroups, ∀ index ∈ group.jointIndices, ∀ axis : StopAxis,
      (hw.stopViews.map Prod.fst)[index]? = some axis →
      (axis.1, axis.2.1) = (group.canDevice, group.protocol) := by
    intro group hgroup index hindex axis haxis
    rw [CanDriverHW.stopViews, List.map_map, List.getElem?_map] at haxis
    obtain ⟨joint, hjoint, rfl⟩ := Option.map_eq_some_iff.1 haxis
    exact rebuildJointGroups_member hgroup hindex hjoint
  have hinv := Reach.invariant (I := StopsFounded (hw.stopViews.map Prod.fst)) hstart
    (fun _ _ _ h _ hs => stopsFounded_step hgroups h hs) hr
  have hview : s.1.hw.stopViews[index]? = some (joint.stopView.1, true) := by
    rw [CanDriverHW.stopViews, List.getElem?_map, hjoint]
    exact congrArg some (Prod.ext rfl hissued)
  obtain ⟨accepted, hstop⟩ := hinv.2 index _ hview
  cases accepted with
  | true => exact hstop
  | false => exact absurd hstop haccepted

/-! ## an axis with a fault -/

/-- An axis with a fault, whose protocol takes a stop or not. -/
def faultyAnswer (accepted : Bool) (s : HwCore × ν) : (op : HwOp) → Option op.Ans
  | .hasFault _ _ _ => some true
  | .stop _ _ _ => some accepted
  | op => s.1.answer op

theorem admits_of_faultyAnswer {accepted : Bool} {s : HwCore × ν} {op : HwOp} {r : op.Ans}
    (h : faultyAnswer accepted s op = some r) : s.1.Admits op r := by
  cases op with
  | hasFault | stop => trivial
  | hw op =>
      have h : s.1.answer (.hw op) = some r := h
      exact admits_of_answer_core h
  | gate op =>
      have h : s.1.answer (.gate op) = some r := h
      exact admits_of_answer_core h
  | _ => trivial

/-- A joint of one axis. -/
def faultyJoint : CanDriverJointConfig :=
  { name := "lift", canDevice := "can0", controlMode := "position", motorId := 1, protocol := .PP }

/-- It alone. -/
def faultyHw : CanDriverHW where
  joints := [faultyJoint]
  commandValidBuffer := [false]

/-- So many cycles on it. -/
def faultyCycles (accepted : Bool) :
    Nat → HwCore × List StopObservation → Option (HwCore × List StopObservation)
  | 0, s => some s
  | n + 1, s =>
      (((commandCycle {} keepCommands faultyHw.rebuildJointGroups).run (watching unguarded watchStops)
        (faultyAnswer accepted) s).map Prod.snd).bind (faultyCycles accepted n)

theorem reach_faultyCycles {accepted : Bool} {n : Nat} {s₀ s s' : HwCore × List StopObservation}
    (hs : Reach (StopEvent.Step faultyHw.rebuildJointGroups) (fun _ _ => True) s₀ s)
    (h : faultyCycles accepted n s = some s') :
    Reach (StopEvent.Step faultyHw.rebuildJointGroups) (fun _ _ => True) s₀ s' := by
  induction n generalizing s with
  | zero => exact Option.some.inj h ▸ hs
  | succ n ih =>
      obtain ⟨s₁, hrun, hrest⟩ := Option.bind_eq_some_iff.1 h
      obtain ⟨⟨anyFault, s₂⟩, hcycle, rfl⟩ := Option.map_eq_some_iff.1 hrun
      have hstep : StopEvent.Step faultyHw.rebuildJointGroups s (.cycle {} keepCommands) s₂ :=
        ⟨rfl, anyFault, Prog.runs_of_run (fun _ _ _ => admits_of_faultyAnswer) hcycle⟩
      exact ih (hs.step trivial hstep) hrest

/-- The axis of the joint. -/
def faultyAxis : StopAxis := ("can0", .PP, 1)

/-- With its stop accepted, the flag of the joint is founded on it. -/
theorem accepted_stop_founds_flag :
    ∃ s, Reach (StopEvent.Step faultyHw.rebuildJointGroups) (fun _ _ => True)
      (⟨faultyHw, {}⟩, []) s ∧ s.1.hw.stopIssued 0 = true ∧ StopAnswered s.2 0 faultyAxis true := by
  obtain ⟨s, hrun, htest⟩ := (Option.any_eq_true _ _).1
    (show (faultyCycles true 2 (⟨faultyHw, {}⟩, [])).any (fun s =>
      decide (s.2 = [.stop faultyAxis true]) &&
        decide (s.1.hw.joints = [{ faultyJoint with stopIssuedOnFault := true }])) = true by
      decide +kernel)
  rw [Bool.and_eq_true, decide_eq_true_eq, decide_eq_true_eq] at htest
  obtain ⟨hlog, hjoints⟩ := htest
  have hr := reach_faultyCycles .refl hrun
  have hjoint : s.1.hw.joints[0]? = some { faultyJoint with stopIssuedOnFault := true } := by
    rw [hjoints]
    rfl
  have hnone : ¬ StopAnswered s.2 0 faultyAxis false := by
    rintro ⟨later, earlier, heq, -⟩
    have hmem : StopObservation.stop faultyAxis false ∈ s.2 := heq ▸ by simp
    rw [hlog] at hmem
    simp at hmem
  refine ⟨s, hr, ?_, stopIssued_accepted faultyHw {} (by simp [faultyHw, faultyJoint]) s hr 0 _ hjoint rfl
    hnone⟩
  rw [CanDriverHW.stopIssued, hjoint]
  rfl

/-- A rejected stop sets the flag as well, and is never sent again. -/
theorem rejected_stop_sets_flag :
    ∃ s, Reach (StopEvent.Step faultyHw.rebuildJointGroups) (fun _ _ => True)
      (⟨faultyHw, {}⟩, []) s ∧ s.1.hw.stopIssued 0 = true ∧
      ¬ StopAnswered s.2 0 faultyAxis true ∧ s.2 = [.stop faultyAxis false] := by
  obtain ⟨s, hrun, htest⟩ := (Option.any_eq_true _ _).1
    (show (faultyCycles false 2 (⟨faultyHw, {}⟩, [])).any (fun s =>
      decide (s.2 = [.stop faultyAxis false]) && s.1.hw.stopIssued 0) = true by decide +kernel)
  rw [Bool.and_eq_true, decide_eq_true_eq] at htest
  obtain ⟨hlog, hissued⟩ := htest
  refine ⟨s, reach_faultyCycles .refl hrun, hissued, ?_, hlog⟩
  rintro ⟨later, earlier, heq, -⟩
  have hmem : StopObservation.stop faultyAxis true ∈ s.2 := heq ▸ by simp
  rw [hlog] at hmem
  simp at hmem

end CanDriver
