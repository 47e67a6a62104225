import CanDriver.Joints.Restart
import CanDriver.Maintenance.ZeroOffset

/-!
# CanDriver.Maintenance.Restore

Zero offsets over a restart.

A new process takes the kept offset for the joint's own one, and `applyPersistedPpZeroOffsets`
writes it to the register of the drive as well.  So the position of the joint is what it was
only if the register held the kept offset before, and that is zero after every commit that
applied an offset to the motor.
-/

namespace CanDriver

open Interact MotorMaintenanceService CanDriverHW

/-! ## writing the kept offsets to the drives -/

/-- The loop of `applyPersistedPpZeroOffsets`; `execute` is that of the motor action executor. -/
def restoreZeroOffsets (execute : CanDriverJointConfig → Int32 → σ → Status × σ)
    (deviceFilter : String) (persistedOffsets : OffsetMap) :
    List CanDriverJointConfig → σ → Bool × σ
  | [], s => (true, s)
  | joint :: joints, s =>
      if joint.protocol ≠ .PP || !controlModeUsesPositionSemantics joint.controlMode then
        restoreZeroOffsets execute deviceFilter persistedOffsets joints s
      else if deviceFilter != "" && joint.canDevice != deviceFilter then
        restoreZeroOffsets execute deviceFilter persistedOffsets joints s
      else
        match persistedOffsets.lookup joint.motorId with
        | none => restoreZeroOffsets execute deviceFilter persistedOffsets joints s
        | some zeroOffset =>
            match scaleAndClampToInt32 zeroOffset (effectivePositionScale joint) with
            | none => (false, s)
            | some rawOffset =>
                let (status, s) := execute joint rawOffset s
                if status ≠ .ok then (false, s)
                else restoreZeroOffsets execute deviceFilter persistedOffsets joints s

/-- `applyPersistedPpZeroOffsets`. -/
def CanDriverHW.applyPersistedPpZeroOffsets (hw : CanDriverHW)
    (execute : CanDriverJointConfig → Int32 → σ → Status × σ) (deviceFilter : String) (s : σ) :
    Bool × σ :=
  if !hw.ppLocalZeroOffsetPersistenceEnabled then (true, s)
  else restoreZeroOffsets execute deviceFilter hw.jointZeroOffsetRadByMotorId hw.joints s

/-- The offset registers of the PP drives, by device and node. -/
abbrev OffsetRegisters := String → UInt8 → Int32

/-- The register of a joint's drive. -/
def OffsetRegisters.of (registers : OffsetRegisters) (joint : CanDriverJointConfig) : Int32 :=
  registers joint.canDevice (toProtocolNodeId joint.motorId)

/-- The register of a joint's drive holds this value now. -/
def OffsetRegisters.write (registers : OffsetRegisters) (joint : CanDriverJointConfig)
    (rawOffset : Int32) : OffsetRegisters := fun device node =>
  if device = joint.canDevice ∧ node = toProtocolNodeId joint.motorId then rawOffset
  else registers device node

/-- A drive that is there and takes the offset. -/
def takeOffset (joint : CanDriverJointConfig) (rawOffset : Int32) (registers : OffsetRegisters) :
    Status × OffsetRegisters :=
  (.ok, registers.write joint rawOffset)

theorem OffsetRegisters.write_of (registers : OffsetRegisters) (joint : CanDriverJointConfig)
    (rawOffset : Int32) : (registers.write joint rawOffset).of joint = rawOffset :=
  if_pos ⟨rfl, rfl⟩

theorem OffsetRegisters.write_of_ne (registers : OffsetRegisters)
    {joint other : CanDriverJointConfig} (rawOffset : Int32)
    (hprotocol : other.protocol = joint.protocol) (h : checkedNode joint ≠ checkedNode other) :
    (registers.write joint rawOffset).of other = registers.of other := by
  refine if_neg fun hsame => h ?_
  rw [checkedNode, checkedNode, ← hsame.1, hprotocol, ← hsame.2]

/-- What is written to the drive of a joint: the kept offset, in raw counts. -/
def restoredOffset (deviceFilter : String) (persistedOffsets : OffsetMap)
    (joint : CanDriverJointConfig) : Option Int32 :=
  if joint.protocol ≠ .PP || !controlModeUsesPositionSemantics joint.controlMode then none
  else if deviceFilter != "" && joint.canDevice != deviceFilter then none
  else (persistedOffsets.lookup joint.motorId).bind fun zeroOffset =>
    scaleAndClampToInt32 zeroOffset (effectivePositionScale joint)

/-- The next joint of the loop, if its offset can be converted. -/
theorem restoreZeroOffsets_cons {deviceFilter : String} {persistedOffsets : OffsetMap}
    {joint : CanDriverJointConfig} (joints : List CanDriverJointConfig)
    (registers : OffsetRegisters)
    (hconverts : ∀ z, persistedOffsets.lookup joint.motorId = some z →
      (scaleAndClampToInt32 z (effectivePositionScale joint)).isSome = true) :
    restoreZeroOffsets takeOffset deviceFilter persistedOffsets (joint :: joints) registers =
      restoreZeroOffsets takeOffset deviceFilter persistedOffsets joints
        ((restoredOffset deviceFilter persistedOffsets joint).elim registers
          (registers.write joint)) := by
  rw [restoreZeroOffsets, restoredOffset]
  split
  · rfl
  · split
    · rfl
    · cases hz : persistedOffsets.lookup joint.motorId with
      | none => rfl
      | some z =>
          obtain ⟨rawOffset, hraw⟩ := Option.isSome_iff_exists.1 (hconverts z hz)
          simp only [Option.bind_some, hraw, takeOffset]
          rfl

/-- Only PP drives get an offset. -/
theorem protocol_of_restoredOffset {deviceFilter : String} {persistedOffsets : OffsetMap}
    {joint : CanDriverJointConfig} {rawOffset : Int32}
    (h : restoredOffset deviceFilter persistedOffsets joint = some rawOffset) :
    joint.protocol = .PP := by
  by_contra hother
  rw [restoredOffset, if_pos (by simp [hother])] at h
  cases h

/-- **Run**: if every kept offset can be converted, every drive gets the one of its joint. -/
theorem restoreZeroOffsets_spec (deviceFilter : String) {persistedOffsets : OffsetMap}
    {joints : List CanDriverJointConfig} (registers : OffsetRegisters)
    (hconverts : ∀ joint ∈ joints, ∀ z, persistedOffsets.lookup joint.motorId = some z →
      (scaleAndClampToInt32 z (effectivePositionScale joint)).isSome = true)
    (hdistinct : joints.Pairwise fun j k => checkedNode j ≠ checkedNode k) :
    ∃ registers', restoreZeroOffsets takeOffset deviceFilter persistedOffsets joints registers =
      (true, registers') ∧
      (∀ other : CanDriverJointConfig, other.protocol = .PP →
        (∀ joint ∈ joints, checkedNode joint ≠ checkedNode other) →
        registers'.of other = registers.of other) ∧
      ∀ joint ∈ joints, joint.protocol = .PP → registers'.of joint =
        (restoredOffset deviceFilter persistedOffsets joint).getD (registers.of joint) := by
  induction joints generalizing registers with
  | nil => exact ⟨registers, rfl, fun _ _ _ => rfl, fun joint h => absurd h List.not_mem_nil⟩
  | cons joint joints ih =>
      obtain ⟨hfirst, hrest⟩ := List.forall_mem_cons.1 hconverts
      obtain ⟨hnew, hlater⟩ := List.pairwise_cons.1 hdistinct
      rw [restoreZeroOffsets_cons joints registers hfirst]
      -- the drive of this joint is its own: nobody later writes to it
      generalize hnext : (restoredOffset deviceFilter persistedOffsets joint).elim registers
        (registers.write joint) = registers₁
      have hown : joint.protocol = .PP → registers₁.of joint =
          (restoredOffset deviceFilter persistedOffsets joint).getD (registers.of joint) := by
        intro _
        subst hnext
        cases restoredOffset deviceFilter persistedOffsets joint with
        | none => rfl
        | some rawOffset => exact registers.write_of joint rawOffset
      have hothers : ∀ other : CanDriverJointConfig, other.protocol = .PP →
          checkedNode joint ≠ checkedNode other → registers₁.of other = registers.of other := by
        intro other hother hne
        subst hnext
        cases hrestored : restoredOffset deviceFilter persistedOffsets joint with
        | none => rfl
        | some rawOffset =>
            have hprotocol := hother.trans (protocol_of_restoredOffset hrestored).symm
            exact registers.write_of_ne rawOffset hprotocol hne
      obtain ⟨registers', hrun, hkept, hwritten⟩ := ih registers₁ hrest hlater
      refine ⟨registers', hrun, fun other hother hne => ?_, ?_⟩
      · obtain ⟨hne, hnes⟩ := List.forall_mem_cons.1 hne
        exact (hkept other hother hnes).trans (hothers other hother hne)
      · refine List.forall_mem_cons.2 ⟨fun hpp => ?_, fun other hother hpp => ?_⟩
        · exact (hkept joint hpp fun later h => (hnew later h).symm).trans (hown hpp)
        · rw [hwritten other hother hpp, hothers other hpp (hnew other hother)]

/-! ## zeros that are committed -/

/-- How a zero may get to be committed: directly, or by a request to the service. -/
inductive ZeroCommit where
  | direct (zeroOffset previousZeroOffset : Double) (applyToMotor writable : Bool)
  | service (env : MaintenanceEnv) (persistToMotor : Bool) (request : SetZeroRequest)

/-- Whether the commit for a motor id succeeds, and what it leaves: the joints, and the register
of the drive. -/
def ZeroCommit.run (motorId : MotorID) (hw : CanDriverHW) (register : Int32) :
    ZeroCommit → Bool × CanDriverHW × Int32
  | direct zeroOffset previousZeroOffset applyToMotor writable =>
      let committed := hw.commitZero motorId zeroOffset previousZeroOffset applyToMotor writable
      (committed.1, committed.2, register)
  | service env persistToMotor request =>
      let ended := env.setZero hw register persistToMotor { request with motorId }
      (ended.1.success, ended.2.hw, ended.2.register)

/-- A request that succeeds has committed an offset. -/
theorem ZeroCommit.exists_commitZero {commit : ZeroCommit} {motorId : MotorID} {hw : CanDriverHW}
    {register : Int32} (h : (commit.run motorId hw register).1 = true) :
    ∃ zeroOffset previousZeroOffset applyToMotor writable,
      hw.commitZero motorId zeroOffset previousZeroOffset applyToMotor writable =
        (true, (commit.run motorId hw register).2.1) := by
  cases commit with
  | direct zeroOffset previousZeroOffset applyToMotor writable =>
      exact ⟨_, _, _, _, Prod.ext h rfl⟩
  | service env persistToMotor request =>
      obtain ⟨result, w, heval, hended⟩ :=
        env.eval_setZero hw register persistToMotor { request with motorId }
      rw [ZeroCommit.run, MaintenanceEnv.setZero, heval] at h ⊢
      have hsuccess : result.success = true := h
      cases happly : request.applyToMotor with
      | false =>
          obtain ⟨hnone, hsome⟩ := hended.unapplied happly
          cases hresolved : env.resolvedZero hw register { request with motorId } with
          | none => exact absurd ((hnone hresolved).symm.trans hsuccess) Bool.false_ne_true
          | some resolved =>
              have hcommit := hsome resolved hresolved
              rw [hsuccess] at hcommit
              exact ⟨_, _, _, _, hcommit.symm⟩
      | true =>
          cases hwrite : env.zeroWrite hw register { request with motorId } with
          | none =>
              have hnot := (hended.unwritten hwrite).2 hsuccess
              exact absurd (hnot.symm.trans happly) Bool.false_ne_true
          | some zw =>
              obtain ⟨-, hrejected, hdone⟩ := hended.written zw hwrite
              by_cases hattempt : env.attempt persistToMotor 0 = .ok
              · have hcommit := hdone hattempt
                rw [hsuccess] at hcommit
                exact ⟨_, _, _, _, hcommit.symm⟩
              · exact absurd ((hrejected hattempt).symm.trans hsuccess) Bool.false_ne_true

/-- A commit that succeeds has kept the offset of its joint and saved all offsets. -/
theorem saved_of_commitZero {hw hw' : CanDriverHW} {motorId : MotorID}
    {zeroOffset previousZeroOffset : Double} {applyToMotor writable : Bool}
    (henabled : hw.ppLocalZeroOffsetPersistenceEnabled = true)
    (h : hw.commitZero motorId zeroOffset previousZeroOffset applyToMotor writable = (true, hw'))
    {joint : CanDriverJointConfig} (hlookup : hw.lookupJointByMotorId motorId = some joint) :
    hw'.Saved ∧ ∃ z, hw'.lookupJointByMotorId motorId = some (joint.withZero z) ∧
      hw'.jointZeroOffsetRadByMotorId.lookup joint.motorId = some z := by
  have hfound := lookup_commitZero hlookup (congrArg Prod.fst h)
  rw [congrArg Prod.snd h] at hfound
  obtain ⟨found, hmatched, rfl⟩ := Option.map_eq_some_iff.1 hlookup
  rw [commitZero, hmatched] at h
  cases writable with
  | false => simp [savePersistedLocalZeroOffsets, henabled] at h
  | true =>
      simp only [savePersistedLocalZeroOffsets, henabled, if_true, Bool.not_true,
        Bool.false_eq_true, if_false, Prod.mk.injEq, true_and] at h
      subst h
      exact ⟨rfl, _, hfound, OffsetMap.lookup_assign_self _ _ _⟩

/-! ## over a restart -/

/-- After a restart that brings the device of a joint up, every shaft position gives the same
position of the joint. -/
def SurvivesRestart (hw : CanDriverHW) (registers : OffsetRegisters)
    (param : Option XmlRpcValue) (motorId : MotorID) (joint : CanDriverJointConfig) : Prop :=
  ∃ hw' registers', hw.restart param = some hw' ∧
    hw'.applyPersistedPpZeroOffsets takeOffset joint.canDevice registers = (true, registers') ∧
    ∀ shaft, hw'.positionAt (registers'.of joint) motorId shaft =
      hw.positionAt (registers.of joint) motorId shaft

/-- All kept offsets are finite; and what a restart adds to the register of the joint's drive is
what writing the offset of the joint with 17 decimals takes from it.  The register is rewritten
if the joint is configured for position semantics. -/
structure OffsetsSurvive (start hw : CanDriverHW) (motorId : MotorID) (register : Int32) :
    Prop where
  finite : ∀ e ∈ hw.jointZeroOffsetRadByMotorId, e.2.isFinite = true
  kept : ∀ joint configured s z, hw.lookupJointByMotorId motorId = some joint →
    start.lookupJointByMotorId motorId = some configured →
    effectivePositionScale joint = .finite s → joint.zeroOffsetRad = .finite z →
    ((if controlModeUsesPositionSemantics configured.controlMode then
      (clampToInt32 (.finite (writtenOffset z / s))).toInt else register.toInt) -
        register.toInt : Int) * s = z - writtenOffset z

/-- A joint that is scaled by something has a scale. -/
theorem exists_effectivePositionScale {joint : CanDriverJointConfig}
    (h : JointConfigParser.Scaled joint.toParsedJointConfig) :
    ∃ s : ℚ, s ≠ 0 ∧ effectivePositionScale joint = .finite s := by
  obtain ⟨s, sign, hs, hsign, hscale, hdirection⟩ := h
  refine ⟨s * sign, mul_ne_zero hs hsign, ?_⟩
  rw [effectivePositionScale, hscale, hdirection]
  rfl

theorem scaleAndClampToInt32_finite (z : ℚ) {s : ℚ} (hs : s ≠ 0) :
    scaleAndClampToInt32 (.finite z) (.finite s) = some (clampToInt32 (.finite (z / s))) := by
  simp [scaleAndClampToInt32, Double.isFinite, Double.isZero, Double.div, hs]

/-- A joint at its two places: its position at every shaft position tells its offsets apart. -/
theorem positions_eq_iff {joint joint' : CanDriverJointConfig} {s z z' : ℚ} (r r' : Int32)
    (hscale : effectivePositionScale joint = .finite s)
    (hscale' : effectivePositionScale joint' = .finite s)
    (hz : joint.zeroOffsetRad = .finite z) (hz' : joint'.zeroOffsetRad = .finite z') :
    (∀ shaft : Int, rawPositionToJointPosition joint' (Double.ofInt (shaft + r'.toInt)) =
      rawPositionToJointPosition joint (Double.ofInt (shaft + r.toInt))) ↔
    (r'.toInt - r.toInt : Int) * s = z - z' := by
  have hposition : ∀ shaft : Int,
      rawPositionToJointPosition joint' (Double.ofInt (shaft + r'.toInt)) =
          rawPositionToJointPosition joint (Double.ofInt (shaft + r.toInt)) ↔
        (r'.toInt - r.toInt : Int) * s = z - z' := by
    intro shaft
    rw [rawPositionToJointPosition, rawPositionToJointPosition, hscale, hscale', hz, hz',
      Double.ofInt, Double.ofInt, Double.mul, Double.mul, Double.add, Double.add,
      Double.finite.injEq]
    push_cast
    constructor
    · intro h
      linarith
    · intro h
      linarith
  exact ⟨fun h => (hposition 0).1 (h 0), fun h shaft => (hposition shaft).2 h⟩

/-- **Restart**: a joint whose offset is kept and saved. -/
theorem survivesRestart_iff {hw₀ start hw : CanDriverHW} {param : Option XmlRpcValue}
    (hinit : hw₀.init true param = some start) (hruns : start.Runs hw) (hsaved : hw.Saved)
    {motorId : MotorID} {joint : CanDriverJointConfig}
    (hlookup : hw.lookupJointByMotorId motorId = some joint) (hpp : joint.protocol = .PP)
    (hkept : hw.jointZeroOffsetRadByMotorId.lookup joint.motorId = some joint.zeroOffsetRad)
    (registers : OffsetRegisters) : SurvivesRestart hw registers param motorId joint ↔
      OffsetsSurvive start hw motorId (registers.of joint) := by
  by_cases hfinite : ∀ e ∈ hw.jointZeroOffsetRadByMotorId, e.2.isFinite = true
  · obtain ⟨hw', hrestart, hagain⟩ := exists_restart hinit hruns hsaved hfinite
    obtain ⟨⟨index, found⟩, hmatched, hfound⟩ := Option.map_eq_some_iff.1 hlookup
    obtain rfl : found = joint := hfound
    -- the joint as configured, and after the restart
    have halike : hw'.joints.map CanDriverJointConfig.fixed =
        start.joints.map CanDriverJointConfig.fixed := by
      have hmap := congrArg (List.map CanDriverJointConfig.fixed) hagain.alike
      rw [List.map_map, List.map_map] at hmap
      exact hmap
    obtain ⟨configured, hmatched₀, -⟩ := matchedJoint_fixed hruns.fixed.symm hmatched
    obtain ⟨joint', hmatched', hfixed⟩ :=
      matchedJoint_fixed (halike.trans hruns.fixed.symm) hmatched
    have hjoint' : joint' ∈ hw'.joints := List.mem_of_getElem? (matchedJoint_getElem? hmatched')
    have hmode : joint'.controlMode = configured.controlMode := by
      have hget := congrArg (fun joints => joints[index]?) hagain.alike
      rw [List.getElem?_map, List.getElem?_map, matchedJoint_getElem? hmatched',
        matchedJoint_getElem? hmatched₀] at hget
      have hzeroed : joint'.withZero (.finite 0) = configured.withZero (.finite 0) :=
        Option.some.inj hget
      have hmodes := congrArg (fun joint : CanDriverJointConfig => joint.controlMode) hzeroed
      exact hmodes
    obtain ⟨hid, hprotocol, hdevice, hsame⟩ := same_of_fixed hfixed
    rw [hpp] at hprotocol
    -- its scale and its offsets
    obtain ⟨s, hs, hscale'⟩ := exists_effectivePositionScale (hagain.scaled joint' hjoint')
    have hscale : effectivePositionScale found = .finite s := hsame.symm.trans hscale'
    obtain ⟨z, hz⟩ : ∃ z, found.zeroOffsetRad = .finite z := by
      have hisFinite := isFinite_of_lookup hfinite hkept
      cases hoffset : found.zeroOffsetRad with
      | finite z => exact ⟨z, rfl⟩
      | _ => rw [hoffset] at hisFinite; cases hisFinite
    rw [hz] at hkept
    obtain ⟨hz', hkept'⟩ := hagain.offsets joint' hjoint' (.finite z) (hid ▸ hkept)
    -- what is written to its drive
    have hconverts : ∀ other ∈ hw'.joints, ∀ z,
        hw'.jointZeroOffsetRadByMotorId.lookup other.motorId = some z →
          (scaleAndClampToInt32 z (effectivePositionScale other)).isSome = true := by
      intro other hother z hz
      obtain ⟨s, hs, hscale⟩ := exists_effectivePositionScale (hagain.scaled other hother)
      have hisFinite := hagain.finite other.motorId z hz
      cases z with
      | finite z => rw [hscale, scaleAndClampToInt32_finite z hs]; rfl
      | _ => cases hisFinite
    obtain ⟨registers', hrun, -, hwritten⟩ :=
      restoreZeroOffsets_spec found.canDevice registers hconverts hagain.distinct
    have hregister : (registers'.of found).toInt =
        if controlModeUsesPositionSemantics configured.controlMode then
          (clampToInt32 (.finite (writtenOffset z / s))).toInt else (registers.of found).toInt := by
      have hsame : ∀ registers : OffsetRegisters, registers.of found = registers.of joint' := by
        intro registers
        rw [OffsetRegisters.of, OffsetRegisters.of, hid, hdevice]
      rw [hsame, hwritten joint' hjoint' hprotocol, restoredOffset, hmode, hprotocol, hdevice,
        hkept', hscale', ← hsame]
      cases hsemantics : controlModeUsesPositionSemantics configured.controlMode with
      | false => simp
      | true => simp [Double.written, scaleAndClampToInt32_finite _ hs]
    have happlied : hw'.applyPersistedPpZeroOffsets takeOffset found.canDevice registers =
        (true, registers') := by
      rw [applyPersistedPpZeroOffsets, hagain.enabled]
      exact hrun
    have hlookup' : hw'.lookupJointByMotorId motorId = some joint' := by
      rw [lookupJointByMotorId, hmatched']
      rfl
    have hlookup₀ : start.lookupJointByMotorId motorId = some configured := by
      rw [lookupJointByMotorId, hmatched₀]
      rfl
    have hpositions :=
      positions_eq_iff (registers.of found) (registers'.of found) hscale hscale' hz hz'
    have hread : (∀ shaft, hw'.positionAt (registers'.of found) motorId shaft =
        hw.positionAt (registers.of found) motorId shaft) ↔ ∀ shaft : Int,
          rawPositionToJointPosition joint' (Double.ofInt (shaft + (registers'.of found).toInt)) =
            rawPositionToJointPosition found (Double.ofInt (shaft + (registers.of found).toInt)) := by
      refine forall_congr' fun shaft => ?_
      rw [positionAt, positionAt, hlookup, hlookup', Option.map_some, Option.map_some,
        Option.some.injEq]
    constructor
    · rintro ⟨hw'', registers'', hrestart', happlied', hsame⟩
      obtain rfl := Option.some.inj (hrestart.symm.trans hrestart')
      obtain rfl := (Prod.mk.inj (happlied.symm.trans happlied')).2
      refine ⟨hfinite, fun other configured' s' z' hother hconfigured hs' hz'' => ?_⟩
      obtain rfl := Option.some.inj (hlookup.symm.trans hother)
      obtain rfl := Option.some.inj (hlookup₀.symm.trans hconfigured)
      obtain rfl := Double.finite.inj (hscale.symm.trans hs')
      obtain rfl := Double.finite.inj (hz.symm.trans hz'')
      rw [← hregister]
      exact hpositions.1 (hread.1 hsame)
    · intro h
      have hoffsets := h.kept found configured s z hlookup hlookup₀ hscale hz
      rw [← hregister] at hoffsets
      exact ⟨hw', registers', hrestart, happlied, hread.2 (hpositions.2 hoffsets)⟩
  · constructor
    · rintro ⟨hw', -, hrestart, -⟩
      rw [restart_eq_none hsaved hfinite] at hrestart
      cases hrestart
    · exact fun h => absurd h.finite hfinite

/-- Where a joint is after a restart it survives. -/
theorem SurvivesRestart.position {hw : CanDriverHW} {registers : OffsetRegisters}
    {param : Option XmlRpcValue} {motorId : MotorID} {joint : CanDriverJointConfig}
    (h : SurvivesRestart hw registers param motorId joint) (shaft : Int) :
    ((hw.restart param).map fun hw' => hw'.positionAt
      ((hw'.applyPersistedPpZeroOffsets takeOffset joint.canDevice registers).2.of joint)
      motorId shaft) = some (hw.positionAt (registers.of joint) motorId shaft) := by
  obtain ⟨hw', registers', hrestart, happlied, hsame⟩ := h
  rw [hrestart, Option.map_some, happlied, hsame]

/-! ### an arm -/

/-- A PP arm in position mode. -/
def armParam : XmlRpcValue := .array [jointParam "arm" 1 "PP" "can0" "position"]

def armJoint : CanDriverJointConfig :=
  { name := "arm", canDevice := "can0", controlMode := "position", motorId := 1, protocol := .PP }

/-- The arm, set up. -/
def armSetUp : CanDriverHW where
  joints := [armJoint]
  commandValidBuffer := [false]
  ppLocalZeroOffsetPersistenceEnabled := true

theorem init_arm : CanDriverHW.init {} true (some armParam) = some armSetUp := by
  have htest : (CanDriverHW.init {} true (some armParam)).any (fun hw =>
      decide (hw.joints = armSetUp.joints ∧ hw.commandValidBuffer = armSetUp.commandValidBuffer ∧
        hw.jointZeroOffsetRadByMotorId = armSetUp.jointZeroOffsetRadByMotorId ∧
        hw.ppLocalZeroOffsetPersistenceEnabled = true ∧ hw.offsetFile = armSetUp.offsetFile)) =
      true := by decide +kernel
  obtain ⟨hw, hinit, htest⟩ := (Option.any_eq_true _ _).1 htest
  obtain ⟨hjoints, hvalid, hmap, henabled, hfile⟩ := of_decide_eq_true htest
  rw [hinit, Option.some.injEq]
  cases hw
  simp only at hjoints hvalid hmap henabled hfile
  subst hjoints hvalid hmap henabled hfile
  rfl

/-- The drives hold this offset. -/
def armRegisters (register : Int32) : OffsetRegisters := fun _ _ => register

/-- A request for a zero of one radian, which is one count. -/
def zeroOneRadian (applyToMotor : Bool) : ZeroCommit :=
  .service obedientDrive false { motorId := 1, zeroOffsetRad := .finite 1, applyToMotor }

end CanDriver
