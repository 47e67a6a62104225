import CanDriver.Lib.Record
import CanDriver.Startup.Session

/-!
# CanDriver.Startup.Alignment

Where the positions of a startup sync are from.

The records outlive transports and protocol objects, and the sync takes over every record that
satisfies its requirement.  If none of an earlier session does when a sync starts, the positions
it aligns the joints with were received since the transport was opened; otherwise it takes over
where the motor was in that session.
-/

namespace CanDriver

open Interact Prog

/-! ## the record -/

/-- A frame is received. -/
def BusCall.isReception : BusCall → Bool
  | .eyouReceive _ | .mtReceive _ | .dmReceive _ => true
  | _ => false

/-- The position a received frame carries. -/
def BusCall.position : BusCall → Option Int
  | .eyouReceive frame =>
      let st := EyouCan.decodeRead frame {}
      if st.positionReceived then some st.position.toInt else none
  | .mtReceive frame =>
      let st := MtCan.decodeResponse frame {}
      if st.positionReceived then some st.multiTurnAngle else none
  | .dmReceive frame => some (DamiaoCan.decodeFeedback frame {}).position
  | _ => none

/-- What is recorded of a session: when its transport was opened, and the frames received
since. -/
structure SessionLog where
  since : Time := 0
  received : List BusCall := []

/-- A frame of the session says that the motor at a node is at a position. -/
def SessionLog.Heard (log : SessionLog) (node : CanType × UInt8) (position : Int) : Prop :=
  ∃ c ∈ log.received, c.tells = some node ∧ c.position = some position

/-- The threads of a device that make these calls. -/
abbrev StartupPool (ι : Type) :=
  Pool busSig ι StartupCall (Option (Bool × List CanDriverJointConfig)) Bus

/-- What happens in one step. -/
abbrev StartupEvent (ι : Type) :=
  Event busSig ι StartupCall (Option (Bool × List CanDriverJointConfig))

section

variable {ι : Type} [DecidableEq ι]

omit [DecidableEq ι] in
/-- What a step adds to the record. -/
def SessionLog.note (p : StartupPool ι) (e : StartupEvent ι) (_ : StartupPool ι)
    (log : SessionLog) : SessionLog :=
  match e with
  | .call _ (.bus c) => if c.isReception then { log with received := c :: log.received } else log
  | .act _ .openTransport => { since := p.shared.time }
  | _ => log

/-- One step on the device `deviceName`, and what is recorded of it. -/
abbrev StartupStep (cfg : DeviceManagerConfig) (deviceName : String) :
    StartupPool ι × SessionLog → StartupEvent ι → StartupPool ι × SessionLog → Prop :=
  Recording (Pool.Step (StartupCall.code cfg deviceName) fun b _ => b.serves) SessionLog.note

omit [DecidableEq ι] in
/-- How a device is managed: one at a time brings it up or down; only objects that are there
are called; and when a transport is opened, whoever might report has finished, and no startup
sync is running. -/
structure Managed (w : StartupPool ι × SessionLog) (e : StartupEvent ι) : Prop where
  serial : ∀ i c, e = .call i c → c.manages = true →
    ∀ j t, w.1.thread j = some t → t.call.manages = false
  served : ∀ i c node, e = .call i c → c.tells = some node →
    node.1 ∈ w.1.shared.slot.protocols
  joined : ∀ i, e = .act i .openTransport →
    ∀ j t, w.1.thread j = some t → t.call.tells = none ∧ t.call.isSync = false

omit [DecidableEq ι] in
/-- When a startup sync begins, the records that satisfy what it requires of a joint in position
semantics are of this session. -/
def Renewed (deviceName : String) (w : StartupPool ι × SessionLog) (e : StartupEvent ι) : Prop :=
  ∀ i params joints, e = .call i (.sync params joints) → ∀ joint ∈ joints,
    joint.canDevice = deviceName → controlModeUsesPositionSemantics joint.controlMode = true →
      ∀ feedback, joint.startupFeedback w.1.shared.shared = some feedback →
        w.2.since < feedback.lastRxSteadyNs

/-- The joint is aligned with a position of this session. -/
def AlignedLive (log : SessionLog) (joint : CanDriverJointConfig) : Prop :=
  ∃ position, log.Heard (protocolNode (joint.protocol, joint.motorId)) position ∧
    joint.pos = rawPositionToJointPosition joint (.ofInt position) ∧ joint.posCmd = joint.pos

omit [DecidableEq ι] in
/-- A sync that succeeds has aligned every joint of the device in position semantics with a
position of this session that is within the limits. -/
def StartsLive (deviceName : String) (w : StartupPool ι × SessionLog) (e : StartupEvent ι) : Prop :=
  ∀ i t params joints aligned, e = .ret i (some (true, aligned)) → w.1.thread i = some t →
    t.call = .sync params joints → ∀ joint ∈ aligned, joint.canDevice = deviceName →
      controlModeUsesPositionSemantics joint.controlMode = true → AlignedLive w.2 joint ∧
        joint.outOfRange params.startupPositionLimitToleranceRad = false

omit [DecidableEq ι] in
/-- A call adds to what was received in the session. -/
theorem note_call (log : SessionLog) (p p' : StartupPool ι) (i : ι) (c : StartupCall) :
    (log.note p (.call i c) p').since = log.since ∧
      log.received ⊆ (log.note p (.call i c) p').received := by
  cases c with
  | sync => exact ⟨rfl, List.Subset.refl _⟩
  | bus call =>
      rw [SessionLog.note]
      split
      · exact ⟨rfl, List.subset_cons_self _ _⟩
      · exact ⟨rfl, List.Subset.refl _⟩

end

/-! ## what the objects have heard -/

variable {deviceName : String} {log log' : SessionLog} {b b' : Bus}

/-- The positions the object has cached are of this session. -/
def EyouCan.Hears (log : SessionLog) (s : EyouCan) : Prop :=
  ∀ n, (s.motorState n).positionReceived = true → log.Heard (.PP, n) (s.motorState n).position.toInt

def MtCan.Hears (log : SessionLog) (s : MtCan) : Prop :=
  ∀ n, (s.motorState n).positionReceived = true → log.Heard (.MT, n) (s.motorState n).multiTurnAngle

/-- The protocol object of this type has heard only this session; a DM frame says everything
anew. -/
def SessionLog.Current (log : SessionLog) (b : Bus) : CanType → Prop
  | .PP => b.eyou.Hears log
  | .MT => b.mt.Hears log
  | _ => True

theorem SessionLog.Heard.mono {node : CanType × UInt8} {position : Int}
    (h : log.Heard node position) (hlog : log.received ⊆ log'.received) :
    log'.Heard node position := by
  obtain ⟨c, hc, h⟩ := h
  exact ⟨c, hlog hc, h⟩

theorem SessionLog.Current.mono {type : CanType} (h : log.Current b type)
    (hlog : log.received ⊆ log'.received) : log'.Current b type := by
  cases type with
  | PP => exact fun n hn => (h n hn).mono hlog
  | MT => exact fun n hn => (h n hn).mono hlog
  | _ => trivial

theorem EyouCan.Deaf.hears {s : EyouCan} (h : s.Deaf) (log : SessionLog) : s.Hears log :=
  fun n hn => absurd ((h n).symm.trans hn) Bool.false_ne_true

theorem MtCan.Deaf.hears {s : MtCan} (h : s.Deaf) (log : SessionLog) : s.Hears log :=
  fun n hn => absurd ((h n).symm.trans hn) Bool.false_ne_true

/-- A position in a cached state is from the frame, or was there before. -/
theorem EyouCan.decodeRead_position (frame : Frame) (st : EyouMotorState) :
    ((decodeRead frame st).positionReceived = (decodeRead frame {}).positionReceived ∧
        (decodeRead frame st).position = (decodeRead frame {}).position ∧
          (decodeRead frame st).positionReceived = true) ∨
      (decodeRead frame st).positionReceived = st.positionReceived ∧
        (decodeRead frame st).position = st.position := by
  unfold decodeRead
  split
  case h_4 => exact .inl ⟨rfl, rfl, rfl⟩
  all_goals exact .inr ⟨rfl, rfl⟩

theorem MtCan.decodeStatus_position (frame : Frame) (st : MtMotorState) :
    (decodeStatus frame st).positionReceived = st.positionReceived ∧
      (decodeStatus frame st).multiTurnAngle = st.multiTurnAngle := ⟨rfl, rfl⟩

theorem MtCan.decodeResponse_position (frame : Frame) (st : MtMotorState) :
    ((decodeResponse frame st).positionReceived = (decodeResponse frame {}).positionReceived ∧
        (decodeResponse frame st).multiTurnAngle = (decodeResponse frame {}).multiTurnAngle ∧
          (decodeResponse frame st).positionReceived = true) ∨
      (decodeResponse frame st).positionReceived = st.positionReceived ∧
        (decodeResponse frame st).multiTurnAngle = st.multiTurnAngle := by
  unfold decodeResponse
  split
  · exact .inr ⟨rfl, rfl⟩
  · split
    · exact .inr ⟨rfl, rfl⟩
    · split
      · exact .inr (decodeStatus_position _ _)
      · split
        · exact .inr ⟨rfl, rfl⟩
        · split
          · exact .inl ⟨rfl, rfl, rfl⟩
          · exact .inr ⟨rfl, rfl⟩

/-- A reception of this session leaves an object that has heard only this session so. -/
theorem EyouCan.hears_decodeRead {frame : Frame} {n : UInt8} {st : EyouMotorState}
    (hnode : responseNode frame = some n) (hreceived : .eyouReceive frame ∈ log.received)
    (hst : st.positionReceived = true → log.Heard (.PP, n) st.position.toInt)
    (h : (decodeRead frame st).positionReceived = true) :
    log.Heard (.PP, n) (decodeRead frame st).position.toInt := by
  rcases decodeRead_position frame st with ⟨hsame, hposition, htrue⟩ | ⟨hsame, hposition⟩
  · refine ⟨_, hreceived, by simp [BusCall.tells, hnode], ?_⟩
    rw [BusCall.position, hposition]
    exact if_pos (hsame.symm.trans htrue)
  · rw [hposition]
    exact hst (hsame.symm.trans h)

theorem MtCan.hears_decodeResponse {frame : Frame} {n : UInt8} {st : MtMotorState}
    (hnode : responseNode frame = some n) (hreceived : .mtReceive frame ∈ log.received)
    (hst : st.positionReceived = true → log.Heard (.MT, n) st.multiTurnAngle)
    (h : (decodeResponse frame st).positionReceived = true) :
    log.Heard (.MT, n) (decodeResponse frame st).multiTurnAngle := by
  rcases decodeResponse_position frame st with ⟨hsame, hposition, htrue⟩ | ⟨hsame, hposition⟩
  · refine ⟨_, hreceived, by simp [BusCall.tells, hnode], ?_⟩
    rw [BusCall.position, hposition]
    exact if_pos (hsame.symm.trans htrue)
  · rw [hposition]
    exact hst (hsame.symm.trans h)

/-- A reception that can tell something is one of this session. -/
def SessionLog.Knows (log : SessionLog) (c : BusCall) : Prop :=
  c.tells.isSome = true → c.isReception = true → c ∈ log.received

/-- **Step**: an update of a disciplined call. -/
theorem EyouCan.Hears.update {c : BusCall} {s : EyouCan} {f : EyouCan → EyouCan}
    (h : s.Hears log) (hs : Sound deviceName s) (hf : c.UpdatesEyou deviceName f)
    (hknows : log.Knows c) : (f s).Hears log := by
  intro n hn
  have hupdate := (hf s hs).2 n
  split at hupdate
  · next frame =>
      rcases hupdate with hsame | ⟨hnode, -, hdecoded⟩
      · rw [hsame] at hn ⊢
        exact h n hn
      · rw [hdecoded] at hn ⊢
        have hreceived := hknows (by simp [BusCall.tells, hnode]) rfl
        exact hears_decodeRead hnode hreceived (h n) hn
  · rw [hupdate] at hn ⊢
    exact h n hn
  · rw [hupdate] at hn ⊢
    exact h n hn
  · obtain ⟨hbefore, hposition⟩ := hupdate.position hn
    rw [hposition]
    exact h n hbefore

theorem MtCan.Hears.update {c : BusCall} {s : MtCan} {f : MtCan → MtCan} (h : s.Hears log)
    (hs : Routed deviceName s) (hf : c.UpdatesMt deviceName f) (hknows : log.Knows c) :
    (f s).Hears log := by
  intro n hn
  have hupdate := (hf s hs).2 n
  split at hupdate
  · next frame =>
      rcases hupdate with hsame | ⟨hnode, hdecoded⟩
      · rw [hsame] at hn ⊢
        exact h n hn
      · rw [hdecoded] at hn ⊢
        have hreceived := hknows (by simp [BusCall.tells, hnode]) rfl
        exact hears_decodeResponse hnode hreceived (h n) hn
  · rw [hupdate] at hn ⊢
    exact h n hn
  · rw [hupdate] at hn ⊢
    exact h n hn
  · obtain ⟨hbefore, hposition⟩ := hupdate.position hn
    rw [hposition]
    exact h n hbefore

/-- What a call reports it, or its object before it, has heard in this session. -/
theorem BusCall.Reports.heard {c : BusCall} {g : Notes} {n : UInt8} {type : CanType}
    {old new : AxisFeedbackState} (h : c.Reports g n old new) (htells : c.tells = some (type, n))
    (hknows : log.Knows c) (heyou : type = .PP → ∀ s ∈ g.eyou, s.Hears log)
    (hmt : type = .MT → ∀ s ∈ g.mt, s.Hears log) (hvalid : new.positionValid = true) :
    log.Heard (type, n) new.position := by
  have hknown : ∀ {c' : BusCall}, c' = c → c'.isReception = true → c' ∈ log.received := by
    rintro c' rfl hreception
    exact hknows (by rw [htells]; rfl) hreception
  obtain ⟨t, -, h⟩ := h
  split at h
  · next frame =>
      obtain ⟨-, s, hs, rfl⟩ := h
      obtain ⟨node, hnode, hpair⟩ := Option.map_eq_some_iff.1 htells
      obtain ⟨rfl, rfl⟩ := Prod.mk.inj hpair
      exact EyouCan.hears_decodeRead hnode (hknown rfl rfl) (heyou rfl s hs _) hvalid
  · next frame =>
      obtain ⟨s, hs, rfl⟩ := h
      obtain ⟨node, hnode, hpair⟩ := Option.map_eq_some_iff.1 htells
      obtain ⟨rfl, rfl⟩ := Prod.mk.inj hpair
      exact MtCan.hears_decodeResponse hnode (hknown rfl rfl) (hmt rfl s hs _) hvalid
  · next frame =>
      obtain ⟨s, hs, rfl⟩ := h
      exact ⟨_, hknown rfl rfl, htells, rfl⟩
  · obtain ⟨s, hs, rfl⟩ := h
    obtain ⟨rfl, rfl⟩ := Prod.mk.inj (Option.some.inj htells)
    exact hmt rfl s hs _ hvalid
  · obtain ⟨s, hs, rfl⟩ := h
    obtain ⟨rfl, rfl⟩ := Prod.mk.inj (Option.some.inj htells)
    exact hmt rfl s hs _ hvalid
  · exact h.elim

/-! ## the invariant -/

/-- The position a record has, if it suffices for the joint, is of this session. -/
def SessionLog.Trusts (log : SessionLog) (deviceName : String) (joints : List CanDriverJointConfig)
    (s : SharedDriverState) : Prop :=
  ∀ joint ∈ joints, joint.canDevice = deviceName →
    controlModeUsesPositionSemantics joint.controlMode = true → ∀ feedback,
      joint.startupFeedback s = some feedback →
        log.Heard (protocolNode (joint.protocol, joint.motorId)) feedback.position

/-- The objects of the session have heard only this session, and so have the records published
since it began. -/
structure InSession (deviceName : String) (log : SessionLog) (b : Bus) : Prop where
  sound : b.Sound deviceName
  current : ∀ type ∈ b.slot.protocols, log.Current b type
  records : ∀ key : AxisKey, key.device = deviceName → (b.shared.record key).positionValid = true →
    (b.shared.record key).lastRxSteadyNs ≤ b.time ∧
      (log.since < (b.shared.record key).lastRxSteadyNs →
        log.Heard (protocolNode (key.protocol, key.motorId)) (b.shared.record key).position)

/-- What the thread of a call knows, and how the record speaks of it. -/
structure SessionThread (deviceName : String) (log : SessionLog) (b : Bus) (c : StartupCall)
    (g : Notes × SessionGhost) : Prop where
  times : ∀ t ∈ g.1.times, t ≤ b.time
  knows : log.Knows c.reporter
  current : ∀ node, c.tells = some node → log.Current b node.1
  eyou : ∀ node, c.tells = some node → node.1 = .PP → ∀ s ∈ g.1.eyou, s.Hears log
  mt : ∀ node, c.tells = some node → node.1 = .MT → ∀ s ∈ g.1.mt, s.Hears log
  slot : c.manages = true → ∀ slot, g.2.slot = some slot → b.slot = slot
  fresh : c.manages = true → g.2.slot = none → b.slot.Settled
  made : c.manages = true → ∀ type ∈ g.2.made, log.Current b type
  sees : ∀ params joints, c = .sync params joints →
    log.Trusts deviceName joints b.shared ∧ ∀ s ∈ g.2.seen, log.Trusts deviceName joints s

/-- What an operation of a call does to the session. -/
structure SessionMove (deviceName : String) (log : SessionLog) (b b' : Bus) : Prop where
  sound : b'.Sound deviceName
  current : ∀ type, log.Current b type → log.Current b' type
  time : b.time ≤ b'.time
  records : ∀ key : AxisKey, key.device = deviceName →
    Unheard (b.shared.record key) (b'.shared.record key) ∨
      (b'.shared.record key).lastRxSteadyNs ≤ b'.time ∧
        ((b'.shared.record key).positionValid = true →
          log.Heard (protocolNode (key.protocol, key.motorId)) (b'.shared.record key).position)

theorem startupFeedback_eq_some {joint : CanDriverJointConfig} {s : SharedDriverState}
    {feedback : AxisFeedbackState} : joint.startupFeedback s = some feedback ↔
      s.record joint.axisKey = feedback ∧
        startupFeedbackSatisfiesRequirement joint feedback = true := by
  rw [CanDriverJointConfig.startupFeedback, Option.filter_eq_some_iff, SharedDriverState.record]
  constructor
  · rintro ⟨hrecord, hsatisfies⟩
    exact ⟨by rw [hrecord]; rfl, hsatisfies⟩
  · rintro ⟨hrecord, hsatisfies⟩
    refine ⟨?_, hsatisfies⟩
    cases hfeedback : s.getAxisFeedback joint.axisKey with
    | none =>
        rw [hfeedback] at hrecord
        subst hrecord
        exact absurd hsatisfies (by simp [startupFeedbackSatisfiesRequirement])
    | some feedback' =>
        rw [hfeedback] at hrecord
        exact congrArg some hrecord

/-- A record that suffices for a joint in position semantics has a position. -/
theorem positionValid_of_satisfies {joint : CanDriverJointConfig} {feedback : AxisFeedbackState}
    (hposition : controlModeUsesPositionSemantics joint.controlMode = true)
    (h : startupFeedbackSatisfiesRequirement joint feedback = true) :
    feedback.positionValid = true := by
  rw [startupFeedbackSatisfiesRequirement, if_pos hposition] at h
  split at h
  · exact absurd h Bool.false_ne_true
  · exact h

/-- A motor that is silent makes no record suffice. -/
theorem Unheard.satisfies {joint : CanDriverJointConfig} {old new : AxisFeedbackState}
    (h : Unheard old new) : startupFeedbackSatisfiesRequirement joint new =
      startupFeedbackSatisfiesRequirement joint old := by
  rw [h.same]
  rfl

theorem SessionMove.trusts (h : SessionMove deviceName log b b')
    {joints : List CanDriverJointConfig} (ht : log.Trusts deviceName joints b.shared) :
    log.Trusts deviceName joints b'.shared := by
  intro joint hjoint hdevice hposition feedback hfeedback
  obtain ⟨hrecord, hsatisfies⟩ := startupFeedback_eq_some.1 hfeedback
  rcases h.records joint.axisKey hdevice with hunheard | ⟨-, hheard⟩
  · have hbefore := ht joint hjoint hdevice hposition (b.shared.record joint.axisKey)
    rw [← hrecord] at hsatisfies ⊢
    rw [hunheard.satisfies] at hsatisfies
    rw [hunheard.same]
    exact hbefore (startupFeedback_eq_some.2 ⟨rfl, hsatisfies⟩)
  · rw [← hrecord] at hsatisfies ⊢
    exact hheard (positionValid_of_satisfies hposition hsatisfies)

/-- **Step**: such a move keeps the invariant, if only objects that have heard nothing else are
registered. -/
theorem SessionMove.keeps (h : SessionMove deviceName log b b') (hb : InSession deviceName log b)
    (hslot : ∀ type ∈ b'.slot.protocols, type ∈ b.slot.protocols ∨ log.Current b type) :
    InSession deviceName log b' := by
  refine ⟨h.sound, fun type htype => ?_, fun key hdevice hvalid => ?_⟩
  · rcases hslot type htype with hbefore | hcurrent
    · exact h.current type (hb.current type hbefore)
    · exact h.current type hcurrent
  · rcases h.records key hdevice with hunheard | ⟨htime, hheard⟩
    · rw [hunheard.same] at hvalid ⊢
      obtain ⟨htime, hheard⟩ := hb.records key hdevice hvalid
      exact ⟨htime.trans h.time, hheard⟩
    · exact ⟨htime, fun _ => hheard hvalid⟩

/-- **Step**: and it leaves the other threads what they know. -/
theorem SessionMove.other (h : SessionMove deviceName log b b') {c : StartupCall}
    {g : Notes × SessionGhost} (hr : SessionThread deviceName log b c g)
    (hslot : c.manages = true → b'.slot = b.slot) : SessionThread deviceName log b' c g where
  times t ht := (hr.times t ht).trans h.time
  knows := hr.knows
  current node htells := h.current _ (hr.current node htells)
  eyou := hr.eyou
  mt := hr.mt
  slot hmanages slot hknown := (hslot hmanages).trans (hr.slot hmanages slot hknown)
  fresh hmanages hnone := hslot hmanages ▸ hr.fresh hmanages hnone
  made hmanages type htype := h.current type (hr.made hmanages type htype)
  sees params joints hsync :=
    ⟨h.trusts (hr.sees params joints hsync).1, (hr.sees params joints hsync).2⟩

/-! ### one operation -/

/-- The rules of a call: it reports only what it has decoded, and keeps to the session. -/
abbrev startupRules (deviceName : String) (c : StartupCall) :
    Protocol busSig (Notes × SessionGhost) :=
  (reporting deviceName c.reporter).and (sessionRules c)

theorem startupRules_code (cfg : DeviceManagerConfig) (c : StartupCall) :
    (c.code cfg deviceName).wp (startupRules deviceName c)
      (fun result g => (c.manages = true → g.2.Settled) ∧ ∀ params joints,
        c = .sync params joints → SyncOutcome deviceName params joints g.2.seen result) ({}, {}) :=
  wp_mono (wp_and (startupCall_reporting cfg c) (startupCall_code cfg c)) fun _ _ h => h.2

theorem StartupCall.tells_eq (c : StartupCall) : c.tells = c.reporter.tells := by
  cases c <;> rfl

variable {c : StartupCall} {g : Notes × SessionGhost} {op : BusOp} {r : op.Ans}

/-- **Step**: what the rules allow is such a move. -/
theorem sessionMove_act (hb : InSession deviceName log b) (hr : SessionThread deviceName log b c g)
    (hallow : (startupRules deviceName c).allow g op) (hadmits : b.admits op r) :
    SessionMove deviceName log b (b.after op r) := by
  have htime : b.time ≤ (b.after op r).time := by
    cases op with
    | clock => exact hadmits
    | _ => exact le_refl b.time
  refine ⟨(hb.sound.after hallow.1 hadmits).2, fun type hcurrent => ?_, htime,
    fun key hdevice => ?_⟩
  · cases op with
    | eyou f =>
        cases type with
        | PP => exact EyouCan.Hears.update hcurrent hb.sound.eyou hallow.1 hr.knows
        | _ => exact hcurrent
    | mt f =>
        cases type with
        | MT => exact MtCan.Hears.update hcurrent hb.sound.mt hallow.1 hr.knows
        | _ => exact hcurrent
    | _ => cases type <;> exact hcurrent
  · rcases publishes_after r hallow.1 key with hkeeps | ⟨-, htells, hreport⟩
    · exact .inl hkeeps.unheard
    · refine .inr ⟨(hr.times _ hreport.exists_time).trans htime, fun hvalid => ?_⟩
      have htells' := c.tells_eq.trans htells
      exact hreport.heard htells hr.knows (hr.eyou _ htells') (hr.mt _ htells') hvalid

/-- Only objects that have heard nothing else are registered. -/
theorem registered_act (hr : SessionThread deviceName log b c g)
    (hallow : (startupRules deviceName c).allow g op) :
    ∀ type ∈ (b.after op r).slot.protocols, type ∈ b.slot.protocols ∨ log.Current b type := by
  cases op with
  | slot f =>
      intro type htype
      rcases hallow.2 with rfl | ⟨hmanages, hregisters⟩
      · exact .inl htype
      · exact (hregisters _ type htype).imp (fun h => h) fun h => hr.made hmanages type h
  | _ => exact fun type htype => .inl htype

/-- Who does not manage the device leaves the slot alone. -/
theorem slot_act (hallow : (startupRules deviceName c).allow g op) (h : c.manages = false) :
    (b.after op r).slot = b.slot := by
  cases op with
  | slot f =>
      rcases hallow.2 with rfl | ⟨hmanages, -⟩
      · rfl
      · exact absurd (h.symm.trans hmanages) Bool.false_ne_true
  | _ => rfl

/-- **Step**: and the thread knows what it did, unless it opens a transport. -/
theorem sessionThread_act (hb : InSession deviceName log b)
    (hr : SessionThread deviceName log b c g)
    (hallow : (startupRules deviceName c).allow g op) (hadmits : b.admits op r)
    (hopen : op ≠ .openTransport) : (startupRules deviceName c).accepts g op r ∧
      SessionThread deviceName log (b.after op r) c ((startupRules deviceName c).next g op r) := by
  have hmove := sessionMove_act hb hr hallow hadmits
  have haccepts := (hb.sound.after hallow.1 hadmits).1
  cases op with
  | slot f =>
      obtain rfl : r = b.slot := hadmits
      refine ⟨⟨haccepts, fun hmanages => ⟨fun known hknown => hr.slot hmanages known hknown,
        fun hnone => hr.fresh hmanages hnone⟩⟩, hr.times, hr.knows, hr.current, hr.eyou, hr.mt,
        fun hmanages slot hslot => Option.some.inj hslot, fun _ hnone => ?_, hr.made, hr.sees⟩
      exact absurd hnone (by simp [Protocol.and, sessionRules])
  | openTransport => exact absurd rfl hopen
  | eyou f =>
      obtain rfl : r = b.eyou := hadmits
      have hnext := hmove.other hr fun _ => rfl
      refine ⟨⟨haccepts, trivial⟩, hnext.times, hnext.knows, hnext.current,
        fun node htells htype s hs => ?_, hnext.mt, hnext.slot, hnext.fresh,
        fun hmanages type htype => ?_, hnext.sees⟩
      · rcases List.mem_cons.1 hs with rfl | hs
        · have hcurrent := hr.current node htells
          rw [htype] at hcurrent
          exact hcurrent
        · exact hr.eyou node htells htype s hs
      · rcases htype with htype | ⟨rfl, hdeaf⟩
        · exact hnext.made hmanages type htype
        · exact (hdeaf b.eyou).hears log
  | mt f =>
      obtain rfl : r = b.mt := hadmits
      have hnext := hmove.other hr fun _ => rfl
      refine ⟨⟨haccepts, trivial⟩, hnext.times, hnext.knows, hnext.current, hnext.eyou,
        fun node htells htype s hs => ?_, hnext.slot, hnext.fresh,
        fun hmanages type htype => ?_, hnext.sees⟩
      · rcases List.mem_cons.1 hs with rfl | hs
        · have hcurrent := hr.current node htells
          rw [htype] at hcurrent
          exact hcurrent
        · exact hr.mt node htells htype s hs
      · rcases htype with htype | ⟨rfl, hdeaf⟩
        · exact hnext.made hmanages type htype
        · exact (hdeaf b.mt).hears log
  | dm f =>
      have hnext := hmove.other hr fun _ => rfl
      refine ⟨⟨haccepts, trivial⟩, hnext.times, hnext.knows, hnext.current, hnext.eyou, hnext.mt,
        hnext.slot, hnext.fresh, fun hmanages type htype => ?_, hnext.sees⟩
      rcases htype with htype | rfl
      · exact hnext.made hmanages type htype
      · trivial
  | shared f =>
      obtain rfl : r = b.shared := hadmits
      have hnext := hmove.other hr fun _ => rfl
      refine ⟨⟨haccepts, trivial⟩, hnext.times, hnext.knows, hnext.current, hnext.eyou, hnext.mt,
        hnext.slot, hnext.fresh, hnext.made, fun params joints hsync => ?_⟩
      obtain ⟨hnow, hbefore⟩ := hr.sees params joints hsync
      refine ⟨(hnext.sees params joints hsync).1, fun s hs => ?_⟩
      rcases List.mem_cons.1 hs with rfl | hs
      · exact hnow
      · exact hbefore s hs
  | clock =>
      have hnext := hmove.other hr fun _ => rfl
      refine ⟨⟨haccepts, trivial⟩, fun t ht => ?_, hnext.knows, hnext.current, hnext.eyou,
        hnext.mt, hnext.slot, hnext.fresh, hnext.made, hnext.sees⟩
      rcases List.mem_cons.1 ht with rfl | ht
      · exact le_refl _
      · exact hnext.times t ht
  | _ =>
      have hnext := hmove.other hr fun _ => rfl
      exact ⟨⟨haccepts, trivial⟩, hnext⟩

/-! ### a new session -/

/-- **Step**: opening a transport begins a session, if the objects of the old one are gone. -/
theorem inSession_open (hb : InSession deviceName log b) (hempty : b.slot.protocols = []) :
    InSession deviceName { since := b.time } b := by
  refine ⟨hb.sound, fun type htype => ?_, fun key hdevice hvalid => ?_⟩
  · rw [hempty] at htype
    exact absurd htype List.not_mem_nil
  · have htime := (hb.records key hdevice hvalid).1
    exact ⟨htime, fun hlater => absurd hlater (Int.not_lt.2 htime)⟩

/-- Threads that tell nothing, make nothing and trust nothing have nothing to forget. -/
theorem sessionThread_open {g' : SessionGhost} (hr : SessionThread deviceName log b c g)
    (htells : c.tells = none) (hsync : c.isSync = false) (hslot : g'.slot = g.2.slot)
    (hmade : c.manages = true → g'.made = ∅) :
    SessionThread deviceName { since := b.time } b c (g.1, g') := by
  have hnone : ∀ {node}, c.tells = some node → False := fun h => by
    rw [htells] at h
    exact absurd h (by simp)
  refine ⟨hr.times, fun h => ?_, fun node h => (hnone h).elim, fun node h => (hnone h).elim,
    fun node h => (hnone h).elim, fun hmanages slot h => hr.slot hmanages slot (hslot ▸ h),
    fun hmanages h => hr.fresh hmanages (hslot ▸ h), fun hmanages type htype => ?_,
    fun params joints h => ?_⟩
  · rw [← c.tells_eq, htells] at h
    exact absurd h (by simp)
  · have hempty := hmade hmanages
    rw [hempty] at htype
    exact absurd htype (Set.notMem_empty type)
  · rw [h] at hsync
    exact absurd hsync Bool.noConfusion

/-! ## runs -/

section

variable {ι : Type} {cfg : DeviceManagerConfig}

/-- The session is in order; one thread at a time manages the device, and if none does the slot is
settled. -/
structure SessionInvariant (deviceName : String) (w : SessionLog × StartupPool ι) (b : Bus) :
    Prop where
  bus : w.2.shared = b
  session : InSession deviceName w.1 b
  alone : ∀ i j c c', w.2.serving i = some c → w.2.serving j = some c' → c.manages = true →
    c'.manages = true → i = j
  settled : (∀ i c, w.2.serving i = some c → c.manages = false) → b.slot.Settled

variable [DecidableEq ι]

/-- What holds in every run. -/
abbrev InSessions (deviceName : String) (w : StartupPool ι × SessionLog) : Prop :=
  Pool.Concludes (startupRules deviceName)
    (fun c result g => (c.manages = true → g.2.Settled) ∧ ∀ params joints,
      c = .sync params joints → SyncOutcome deviceName params joints g.2.seen result)
    (SessionInvariant deviceName)
    (fun w i c g => w.2.serving i = some c ∧ SessionThread deviceName w.1 w.2.shared c g)
    (w.2, w.1) w.1

variable {w w' : StartupPool ι × SessionLog} {e : StartupEvent ι}

/-- A thread that has learned of more of the same session. -/
theorem SessionThread.of_log (h : SessionThread deviceName log b c g)
    (hlog : log.received ⊆ log'.received) : SessionThread deviceName log' b c g := by
  have htrusts : ∀ joints s, log.Trusts deviceName joints s → log'.Trusts deviceName joints s :=
    fun joints s h joint hjoint hdevice hposition feedback hfeedback =>
      (h joint hjoint hdevice hposition feedback hfeedback).mono hlog
  refine ⟨h.times, fun htells hreception => hlog (h.knows htells hreception),
    fun node htells => (h.current node htells).mono hlog,
    fun node htells htype s hs n hn => (h.eyou node htells htype s hs n hn).mono hlog,
    fun node htells htype s hs n hn => (h.mt node htells htype s hs n hn).mono hlog, h.slot, h.fresh,
    fun hmanages type htype => (h.made hmanages type htype).mono hlog, fun params joints hsync => ?_⟩
  obtain ⟨hnow, hseen⟩ := h.sees params joints hsync
  exact ⟨htrusts _ _ hnow, fun s hs => htrusts _ _ (hseen s hs)⟩

theorem InSession.of_log (h : InSession deviceName log b) (hsince : log'.since = log.since)
    (hlog : log.received ⊆ log'.received) : InSession deviceName log' b := by
  refine ⟨h.sound, fun type htype => (h.current type htype).mono hlog, fun key hdevice hvalid => ?_⟩
  · obtain ⟨htime, hheard⟩ := h.records key hdevice hvalid
    rw [hsince]
    exact ⟨htime, fun hlater => (hheard hlater).mono hlog⟩

omit [DecidableEq ι] in
/-- **Step**: a call begins. -/
theorem sessionThread_call {p : StartupPool ι} (hI : SessionInvariant deviceName (log, p) b)
    {i : ι} {c : StartupCall} (hmanaged : Managed (p, log) (.call i c))
    (hrenewed : Renewed deviceName (p, log) (.call i c)) (p' : StartupPool ι) :
    SessionThread deviceName (log.note p (.call i c) p') b c ({}, {}) := by
  have hbus : p.shared = b := hI.bus
  refine ⟨by simp, fun htells hreception => ?_, fun node htells => ?_, by simp, by simp, by simp,
    fun hmanages _ => ?_, by simp, fun params joints hsync => ⟨?_, by simp⟩⟩
  · cases c with
    | sync => exact absurd hreception Bool.false_ne_true
    | bus call =>
        have hreception : call.isReception = true := hreception
        rw [SessionLog.note, if_pos hreception]
        exact List.mem_cons_self
  · have hserved := hmanaged.served i c node rfl htells
    rw [hbus] at hserved
    have hcurrent := hI.session.current _ hserved
    exact hcurrent.mono (note_call log p p' i c).2
  · refine hI.settled fun j c' hj => ?_
    obtain ⟨t, ht, rfl⟩ := Option.map_eq_some_iff.1 hj
    exact hmanaged.serial i c rfl hmanages j t ht
  · subst hsync
    intro joint hjoint hdevice hposition feedback hfeedback
    have hlater := hrenewed i params joints rfl joint hjoint hdevice hposition feedback
      (by rw [← hfeedback]; exact congrArg (fun b : Bus => joint.startupFeedback b.shared) hbus)
    obtain ⟨hrecord, hsatisfies⟩ := startupFeedback_eq_some.1 hfeedback
    have hvalid := positionValid_of_satisfies hposition hsatisfies
    rw [← hrecord] at hlater hvalid ⊢
    exact (hI.session.records joint.axisKey hdevice hvalid).2 hlater

omit [DecidableEq ι] in
/-- **Step**: an operation, in a session or beginning one. -/
theorem sessionThread_step {p p' : StartupPool ι} {i : ι} {op : BusOp} {r : op.Ans}
    (hI : SessionInvariant deviceName (log, p) b) (hmanaged : Managed (p, log) (.act i op))
    (hi : p.serving i = some c) (hr : SessionThread deviceName log b c g)
    (hallow : (startupRules deviceName c).allow g op) (hadmits : b.admits op r)
    (hshared : p'.shared = b.after op r) (hserving : ∀ j, p'.serving j = p.serving j) :
    (startupRules deviceName c).accepts g op r ∧
      SessionInvariant deviceName (log.note p (.act i op) p', p') (b.after op r) ∧
      SessionThread deviceName (log.note p (.act i op) p') (b.after op r) c
        ((startupRules deviceName c).next g op r) ∧
      ∀ j c' g', j ≠ i → p.serving j = some c' → SessionThread deviceName log b c' g' →
        SessionThread deviceName (log.note p (.act i op) p') (b.after op r) c' g' := by
  have halone : ∀ j c', j ≠ i → p.serving j = some c' → c'.manages = true → c.manages = false := by
    intro j c' hji hj hmanages
    refine Bool.eq_false_of_not_eq_true fun hc => ?_
    exact hji (hI.alone j i c' c hj hi hmanages hc)
  have hone : ∀ j k c' c'', p'.serving j = some c' → p'.serving k = some c'' →
      c'.manages = true → c''.manages = true → j = k := by
    intro j k c' c'' hj hk
    rw [hserving] at hj hk
    exact hI.alone j k c' c'' hj hk
  have hsettled : (∀ j c', p'.serving j = some c' → c'.manages = false) →
      (b.after op r).slot.Settled := by
    intro hnone
    rw [slot_act hallow (hnone i c ((hserving i).trans hi))]
    exact hI.settled fun j c' hj => hnone j c' ((hserving j).trans hj)
  by_cases hopen : op = .openTransport
  · subst hopen
    obtain ⟨hmanages, slot, hslot, hempty⟩ := hallow.2
    have hbus : p.shared = b := hI.bus
    have hlog : log.note p (.act i .openTransport) p' = { since := b.time } := by
      rw [SessionLog.note, hbus]
    have hidle : ∀ j c', p.serving j = some c' → c'.tells = none ∧ c'.isSync = false := by
      intro j c' hj
      obtain ⟨t, ht, rfl⟩ := Option.map_eq_some_iff.1 hj
      exact hmanaged.joined i rfl j t ht
    rw [← hr.slot hmanages slot hslot] at hempty
    rw [hlog]
    refine ⟨⟨trivial, trivial⟩, ⟨hshared, inSession_open hI.session hempty, hone, hsettled⟩, ?_,
      fun j c' g' hji hj hr' => ?_⟩
    · exact sessionThread_open hr (hidle i c hi).1 (hidle i c hi).2 rfl fun _ => rfl
    · refine sessionThread_open hr' (hidle j c' hj).1 (hidle j c' hj).2 rfl fun hmanages' => ?_
      exact absurd ((halone j c' hji hj hmanages').symm.trans hmanages) Bool.false_ne_true
  · have hlog : log.note p (.act i op) p' = log := by
      cases op with
      | openTransport => exact absurd rfl hopen
      | _ => rfl
    have hmove := sessionMove_act hI.session hr hallow hadmits
    obtain ⟨haccepts, hthread⟩ := sessionThread_act hI.session hr hallow hadmits hopen
    rw [hlog]
    refine ⟨haccepts, ⟨hshared, hmove.keeps hI.session (registered_act hr hallow), hone, hsettled⟩,
      hthread, fun j c' g' hji hj hr' => ?_⟩
    exact hmove.other hr' fun hmanages => slot_act hallow (halone j c' hji hj hmanages)

theorem inSessions_step (h : InSessions deviceName w)
    (hC : Managed w e ∧ Renewed deviceName w e) (hs : StartupStep cfg deviceName w e w') :
    InSessions deviceName w' := by
  obtain ⟨p', log'⟩ := w'
  obtain ⟨hs, hnote⟩ := hs
  obtain ⟨hmanaged, hrenewed⟩ := hC
  dsimp only at hs hnote ⊢
  have hI := h.shared
  have hquiet : (∀ i op, e ≠ .act i op) → p'.shared = w.1.shared := by
    intro he
    cases hs with
    | act i c op k r s' hi hop => exact absurd rfl (he i op)
    | call | ret => rfl
  refine h.step (fun i c he hi => ?_) (fun i c op k g r s' he hi hR hallow hserves hshared => ?_)
    (fun i a he => ?_) (fun j c g hji hR => ?_) hs
  · subst he
    have hsame := hquiet fun i' op hact => by simp at hact
    obtain ⟨hsince, hreceived⟩ := note_call w.2 w.1 p' i c
    have hserving := Pool.serving_call hs
    rw [hnote]
    refine ⟨⟨hsame, hI.session.of_log hsince hreceived, fun j k c' c'' hj hk hc' hc'' => ?_,
      fun hnone => ?_⟩, ({}, {}), ⟨(hserving i).trans (if_pos rfl),
        hsame ▸ sessionThread_call hI hmanaged hrenewed p'⟩, startupRules_code cfg c⟩
    · have hnew : ∀ {j c'}, p'.serving j = some c' → c'.manages = true → j = i ∧ c'= c ∨
          w.1.serving j = some c' := by
        intro j c' hj hmanages
        rw [hserving] at hj
        split at hj
        · exact .inl ⟨‹_›, (Option.some.inj hj).symm⟩
        · exact .inr hj
      have hfree : ∀ {j c'}, c.manages = true → w.1.serving j = some c' → c'.manages = true →
          False := by
        intro j c' hmanages hj hmanages'
        obtain ⟨t, ht, rfl⟩ := Option.map_eq_some_iff.1 hj
        exact absurd ((hmanaged.serial i c rfl hmanages j t ht).symm.trans hmanages')
          Bool.false_ne_true
      rcases hnew hj hc' with ⟨hji, hcc⟩ | hj'
      · rcases hnew hk hc'' with ⟨hki, -⟩ | hk'
        · exact hji.trans hki.symm
        · exact (hfree (hcc ▸ hc') hk' hc'').elim
      · rcases hnew hk hc'' with ⟨-, hcc⟩ | hk'
        · exact (hfree (hcc ▸ hc'') hj' hc').elim
        · exact hI.alone j k c' c'' hj' hk' hc' hc''
    · refine hI.settled fun j c' hj => hnone j c' ?_
      rw [hserving, if_neg]
      · exact hj
      · rintro rfl
        rw [Pool.serving, hi] at hj
        exact absurd hj (by simp)
  · subst he
    obtain ⟨hadmits, hbus⟩ := hserves
    have hserving := Pool.serving_act hs
    obtain ⟨haccepts, hinvariant, hthread, -⟩ := sessionThread_step hI hmanaged hR.1 hR.2 hallow
      hadmits (hshared.trans hbus) hserving
    rw [hnote, hbus]
    refine ⟨haccepts, hinvariant, (hserving i).trans hR.1, ?_⟩
    rw [hshared, hbus]
    exact hthread
  · subst he
    have hsame := hquiet fun i' op hact => by simp at hact
    obtain ⟨t, hi⟩ : ∃ t, w.1.thread i = some t := by
      cases hs with
      | ret _ c _ hi => exact ⟨_, hi⟩
    obtain ⟨g, ⟨-, hR⟩, hsettled, -⟩ := h.ret hi hs
    have hserving := Pool.serving_ret hs
    have hbefore : ∀ {j c'}, p'.serving j = some c' → w.1.serving j = some c' := by
      intro j c' hj
      rw [hserving] at hj
      split at hj
      · exact absurd hj (by simp)
      · exact hj
    rw [hnote]
    refine ⟨hsame, hI.session, fun j k c' c'' hj hk => hI.alone j k c' c'' (hbefore hj) (hbefore hk),
      fun hnone => ?_⟩
    by_cases hmanages : t.call.manages = true
    · cases hslot : g.2.slot with
      | none => exact hR.fresh hmanages hslot
      | some slot =>
          rw [hR.slot hmanages slot hslot]
          exact hsettled hmanages slot hslot
    · refine hI.settled fun j c' hj => ?_
      by_cases hji : j = i
      · subst hji
        rw [Pool.serving, hi] at hj
        obtain rfl : t.call = c' := Option.some.inj hj
        exact Bool.eq_false_of_not_eq_true hmanages
      · exact hnone j c' ((hserving j).trans ((if_neg hji).trans hj))
  · have hstep := hs
    have hreceived := fun i c => (note_call w.2 w.1 p' i c).2
    rw [hnote]
    cases hs with
    | call i c' hi =>
        have hserving := (Pool.serving_call hstep j).trans (if_neg hji)
        exact ⟨hserving.trans hR.1, hR.2.of_log (hreceived i c')⟩
    | ret i c' a hi =>
        have hserving := (Pool.serving_ret hstep j).trans (if_neg hji)
        exact ⟨hserving.trans hR.1, hR.2⟩
    | act i c' op k r s' hi hserves =>
        obtain ⟨g', hR', hwp⟩ := h.thread i _ hi
        obtain ⟨hadmits, rfl⟩ := hserves
        obtain ⟨-, -, -, hothers⟩ := sessionThread_step hI hmanaged hR'.1 hR'.2 hwp.1 hadmits rfl
          (Pool.serving_act hstep)
        exact ⟨(Pool.serving_act hstep j).trans hR.1, hothers j c g hji hR.1 hR.2⟩

/-- **Run**: if the records a startup sync finds to be sufficient when it begins are of this
session, a sync that succeeds has aligned every joint with a position received in this session. -/
theorem startup_live (options : RuntimeOptions) (t : Time)
    (hr : Reach (StartupStep cfg deviceName) (fun w e => Managed w e ∧ Renewed deviceName w e)
      (Pool.idle (Bus.powerOn deviceName {} options t), {}) w)
    (hs : StartupStep cfg deviceName w e w') : StartsLive deviceName w e := by
  have h : InSessions deviceName w := by
    refine Reach.invariant (I := InSessions deviceName) (.idle ⟨rfl, ?_, ?_, ?_⟩)
      (fun w e w' h hC hs => inSessions_step h hC hs) hr
    · refine ⟨sound_powerOn .., fun type htype => absurd htype List.not_mem_nil, ?_⟩
      exact fun key _ hvalid => absurd hvalid Bool.false_ne_true
    · exact fun i j c c' hi => absurd hi (by simp [Pool.serving, Pool.idle])
    · exact fun _ _ => rfl
  rintro i t params joints aligned rfl hi hsync joint hjoint hdevice hposition
  obtain ⟨g, ⟨-, hthread⟩, -, houtcome⟩ := h.ret hi hs.1
  obtain ⟨hrange, taken, ⟨source, hsource, s, hseen, feedback, hfeedback, rfl⟩, rfl⟩ :=
    houtcome params joints hsync aligned rfl joint hjoint hdevice
  have hsatisfies := (startupFeedback_eq_some.1 hfeedback).2
  have hvalid := positionValid_of_satisfies hposition hsatisfies
  have htrusts := (hthread.sees params joints hsync).2 s hseen
  have hheard := htrusts source hsource hdevice hposition feedback hfeedback
  refine ⟨⟨feedback.position, hheard, ?_, ?_⟩, hrange⟩
  · show (if feedback.positionValid = true then _ else _) = _
    rw [if_pos hvalid]
    rfl
  · exact if_pos hposition

end

/-! ## a position of the session before -/

/-- The device, before anything has happened on it. -/
def startupBus : StartupPool Bool × SessionLog := (Pool.idle (Bus.powerOn "can0" {} {} 1000), {})

/-- PP motor 1 says that it is at 1000. -/
def elbowPosition : Frame := dataFrame 1 6 #v[0x04, 0x07, 0, 0, 3, 0xE8, 0, 0]

/-- A joint in position mode. -/
def elbow : CanDriverJointConfig :=
  { name := "elbow", canDevice := "can0", controlMode := "position", motorId := 1, protocol := .PP }

/-- The joint, aligned with this position. -/
def elbowAligned : CanDriverJointConfig := { elbow with pos := .finite 1000, posCmd := .finite 1000 }

/-- Bring the device up. -/
def bringElbowUp : List (Pool.Move Bool StartupCall) :=
  Pool.callFor false (.bus (.initDevice [(.PP, 1)])) 24

/-- The joints a successful startup sync is about to return. -/
def aboutToReturn (w : StartupPool Bool × SessionLog) : Option (List CanDriverJointConfig) :=
  match w.1.thread false with
  | some ⟨.sync _ _, .ret (some (true, aligned))⟩ => some aligned
  | _ => none

theorem step_of_aboutToReturn {w : StartupPool Bool × SessionLog}
    {aligned : List CanDriverJointConfig} (h : aboutToReturn w = some aligned) :
    ∃ w' t params joints, StartupStep {} "can0" w (.ret false (some (true, aligned))) w' ∧
      w.1.thread false = some t ∧ t.call = .sync params joints := by
  rw [aboutToReturn] at h
  split at h
  · next params joints aligned' hi =>
    obtain rfl := Option.some.inj h
    have hs : Pool.Step (StartupCall.code {} "can0") (fun b _ => b.serves) w.1
        (.ret false (some (true, aligned'))) _ := .ret w.1 false _ _ hi
    exact ⟨(_, _), _, params, joints, ⟨hs, rfl⟩, hi, rfl⟩
  · exact absurd h (by simp)

/-- A checked form of `Managed`. -/
def managed (w : StartupPool Bool × SessionLog) : StartupEvent Bool → Bool
  | .call _ c =>
      (!c.manages || decide (∀ j, ∀ t ∈ w.1.thread j, t.call.manages = false)) &&
        c.tells.all fun node => decide (node.1 ∈ w.1.shared.slot.protocols)
  | .act _ .openTransport =>
      decide (∀ j, ∀ t ∈ w.1.thread j, t.call.tells = none ∧ t.call.isSync = false)
  | _ => true

theorem managed_spec {w : StartupPool Bool × SessionLog} {e : StartupEvent Bool}
    (h : managed w e = true) : Managed w e := by
  refine ⟨fun i c he hmanages j t hj => ?_, fun i c node he htells => ?_, fun i he j t hj => ?_⟩
  · subst he
    obtain ⟨hserial, -⟩ := Bool.and_eq_true_iff.1 h
    rw [hmanages, Bool.not_true, Bool.false_or, decide_eq_true_eq] at hserial
    exact hserial j t hj
  · subst he
    obtain ⟨-, hserved⟩ := Bool.and_eq_true_iff.1 h
    rw [htells] at hserved
    exact of_decide_eq_true hserved
  · subst he
    exact of_decide_eq_true h j t hj

/-- A checked form of `Renewed`. -/
def renewed (w : StartupPool Bool × SessionLog) : StartupEvent Bool → Bool
  | .call _ (.sync _ joints) =>
      joints.all fun joint => (joint.startupFeedback w.1.shared.shared).all fun feedback =>
        decide (w.2.since < feedback.lastRxSteadyNs)
  | _ => true

theorem renewed_spec {w : StartupPool Bool × SessionLog} {e : StartupEvent Bool}
    (h : renewed w e = true) : Renewed "can0" w e := by
  rintro i params joints rfl joint hjoint - - feedback hfeedback
  have hall := List.all_eq_true.1 h joint hjoint
  rw [hfeedback] at hall
  exact of_decide_eq_true hall

/-- A motor that answers while the sync asks is aligned with its answer. -/
theorem startup_while_answering : ∃ (w w' : StartupPool Bool × SessionLog) (e : _),
    Reach (StartupStep {} "can0") (fun w e => Managed w e ∧ Renewed "can0" w e) startupBus w ∧
    StartupStep {} "can0" w e w' ∧ StartsLive "can0" w e ∧
    e = .ret false (some (true, [elbowAligned])) := by
  have hrun : (Pool.followWhile (StartupCall.code {} "can0") (fun b _ => b.serve) SessionLog.note
      (fun w e => managed w e && renewed w e) startupBus
      (bringElbowUp ++ Pool.callFor false (.sync { fuel := 3 } [elbow]) 14 ++
        Pool.callFor true (.bus (.eyouReceive elbowPosition)) 9 ++ List.replicate 9 (.go false))).any
        (fun w => decide (aboutToReturn w = some [elbowAligned])) = true := by
    decide +kernel
  have hchecks : ∀ (w : StartupPool Bool × SessionLog) e,
      (managed w e && renewed w e) = true → Managed w e ∧ Renewed "can0" w e := fun w e h =>
    (Bool.and_eq_true_iff.1 h).imp managed_spec renewed_spec
  obtain ⟨w, hr, htest⟩ := Pool.exists_of_followWhile (h := fun b _ => b.serves)
    (fun _ _ _ _ _ => serves_of_serve) hchecks hrun
  obtain ⟨w', -, -, -, hs, -⟩ := step_of_aboutToReturn (of_decide_eq_true htest)
  exact ⟨w, w', _, hr, hs, startup_live {} 1000 hr hs, rfl⟩

/-- After a restart, the sync takes over where the motor was before it. -/
theorem startup_after_restart : ¬ ∀ (w w' : StartupPool Bool × SessionLog) e,
    Reach (StartupStep {} "can0") Managed startupBus w → StartupStep {} "can0" w e w' →
      StartsLive "can0" w e := by
  intro hclaim
  have hrun : (Pool.followWhile (StartupCall.code {} "can0") (fun b _ => b.serve) SessionLog.note
      managed startupBus
      (bringElbowUp ++ Pool.callFor false (.bus (.eyouReceive elbowPosition)) 9 ++
        Pool.callFor false (.bus .shutdownDevice) 6 ++ bringElbowUp ++
        Pool.callFor false (.sync { fuel := 3 } [elbow]) 12)).any
        (fun w => decide (aboutToReturn w = some [elbowAligned]) && w.2.received.isEmpty) = true := by
    decide +kernel
  obtain ⟨w, hr, htest⟩ := Pool.exists_of_followWhile (h := fun b _ => b.serves)
    (fun _ _ _ _ _ => serves_of_serve) (fun _ _ => managed_spec) hrun
  obtain ⟨hreturns, hsilent⟩ := Bool.and_eq_true_iff.1 htest
  obtain ⟨w', t, params, joints, hs, hi, hsync⟩ :=
    step_of_aboutToReturn (of_decide_eq_true hreturns)
  have hlive := hclaim w w' _ hr hs false t params joints [elbowAligned] rfl hi hsync elbowAligned
    List.mem_cons_self rfl (by decide +kernel)
  obtain ⟨⟨position, ⟨c, hreceived, -⟩, -⟩, -⟩ := hlive
  rw [List.isEmpty_iff.1 hsilent] at hreceived
  exact absurd hreceived List.not_mem_nil

end CanDriver
