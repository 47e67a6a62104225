import Mathlib.Logic.Function.Basic
import Mathlib.Data.List.Basic

/-!
# CanDriver.Basic

The vocabulary shared by every layer of the driver: motor ids and their wire
forms, protocol kinds, motor modes and CAN frames.

Machine integers are Lean's fixed-width types, so conversions wrap exactly
where the C++ casts do.  Points in time are nanoseconds of the steady clock;
a default-constructed `time_point` is `0`.
-/

namespace CanDriver

/-- `MotorID`: the system-level motor id, the full 16 bits of it. -/
abbrev MotorID := UInt16

/-- Nanoseconds of the steady clock. -/
abbrev Time := Int

/-- Milliseconds as nanoseconds. -/
def ms (n : Int) : Time := n * 1000000

/-- `CanType`. -/
inductive CanType where
  | MT | PP | DM | ECB
deriving DecidableEq, Repr

/-- `CanProtocol::MotorMode`. -/
inductive MotorMode where
  | position | velocity | csp
deriving DecidableEq, Repr

/-- `AxisIntent`. -/
inductive AxisIntent where
  | none | disable | enable | hold | run | recover
deriving DecidableEq, Repr

/-! ## motor ids on the wire -/

/-- `kMtSendBaseId`. -/
def kMtSendBaseId : UInt16 := 0x140

/-- `toMtProtocolNodeId`: an id from the send base on loses it, a smaller one
keeps its low byte. -/
def toMtProtocolNodeId (id : MotorID) : UInt8 :=
  if kMtSendBaseId ≤ id then (id - kMtSendBaseId).toUInt8 else (id &&& 0xFF).toUInt8

/-- `motorIdFromMtProtocolNodeId`. -/
def motorIdFromMtProtocolNodeId (nodeId : UInt8) : MotorID := kMtSendBaseId + nodeId.toUInt16

/-- `toProtocolNodeId`: the low byte of the system id. -/
def toProtocolNodeId (id : MotorID) : UInt8 := (id &&& 0xFF).toUInt8

/-- `motorIdFromProtocolNodeId`. -/
def motorIdFromProtocolNodeId (nodeId : UInt8) : MotorID := nodeId.toUInt16

@[simp] theorem toMtProtocolNodeId_motorIdFromMtProtocolNodeId (nodeId : UInt8) :
    toMtProtocolNodeId (motorIdFromMtProtocolNodeId nodeId) = nodeId := by
  have hnode := nodeId.toNat_lt
  have hsum : (kMtSendBaseId + nodeId.toUInt16).toNat = 0x140 + nodeId.toNat := by
    rw [UInt16.toNat_add, UInt8.toNat_toUInt16, Nat.mod_eq_of_lt]
    · rfl
    · simp only [kMtSendBaseId, UInt16.reduceToNat]
      omega
  have hle : kMtSendBaseId ≤ kMtSendBaseId + nodeId.toUInt16 := by
    rw [UInt16.le_iff_toNat_le, hsum]
    exact Nat.le_add_right _ _
  rw [motorIdFromMtProtocolNodeId, toMtProtocolNodeId, if_pos hle, UInt16.add_comm,
    UInt16.add_sub_cancel, UInt8.toUInt8_toUInt16]

@[simp] theorem toProtocolNodeId_motorIdFromProtocolNodeId (node : UInt8) :
    toProtocolNodeId (motorIdFromProtocolNodeId node) = node := by
  have hnode := node.toNat_lt
  have hmask : node.toNat &&& 255 = node.toNat % 2 ^ 8 := Nat.and_two_pow_sub_one_eq_mod _ 8
  apply UInt8.toNat_inj.1
  simp only [toProtocolNodeId, motorIdFromProtocolNodeId, UInt16.toNat_toUInt8, UInt16.toNat_and,
    UInt8.toNat_toUInt16]
  rw [show (0xFF : UInt16).toNat = 255 from rfl, hmask]
  omega

/-- The node a motor is on the wire. -/
def protocolNode (motor : CanType × MotorID) : CanType × UInt8 :=
  (motor.1, if motor.1 = .MT then toMtProtocolNodeId motor.2 else toProtocolNodeId motor.2)

/-- The system motor id the protocols fall back on for a node. -/
def systemMotorId (node : CanType × UInt8) : MotorID :=
  if node.1 = .MT then motorIdFromMtProtocolNodeId node.2 else motorIdFromProtocolNodeId node.2

@[simp] theorem protocolNode_systemMotorId (node : CanType × UInt8) :
    protocolNode (node.1, systemMotorId node) = node := by
  obtain ⟨type, n⟩ := node
  cases type <;> simp [protocolNode, systemMotorId]

/-! ## frames -/

/-- `CanTransport::Frame`. -/
structure Frame where
  id : UInt32
  isExtended : Bool
  isRemoteRequest : Bool
  dlc : UInt8
  data : Vector UInt8 8
deriving DecidableEq, Repr

/-- `CanTransport::SendResult`. -/
inductive SendResult where
  | ok | backpressure | linkDown | error
deriving DecidableEq, Repr

/-- A standard data frame. -/
def dataFrame (id : UInt32) (dlc : UInt8) (data : Vector UInt8 8) : Frame :=
  { id, isExtended := false, isRemoteRequest := false, dlc, data }

/-- The word with these four bytes, most significant first. -/
def wordOfBytes (a b c d : UInt8) : UInt32 :=
  (a.toUInt32 <<< 24) ||| (b.toUInt32 <<< 16) ||| (c.toUInt32 <<< 8) ||| d.toUInt32

/-- The bytes of a word, put together again. -/
theorem wordOfBytes_split (v : UInt32) :
    wordOfBytes (v >>> 24).toUInt8 (v >>> 16).toUInt8 (v >>> 8).toUInt8 v.toUInt8 = v := by
  apply UInt32.toNat_inj.1
  apply Nat.eq_of_testBit_eq
  intro i
  have h8 : 256 = 2 ^ 8 := rfl
  have h32 : 4294967296 = 2 ^ 32 := rfl
  have hhigh : 32 ≤ i → v.toNat.testBit i = false := fun hi =>
    Nat.testBit_lt_two_pow (Nat.lt_of_lt_of_le v.toNat_lt (Nat.pow_le_pow_right (by decide) hi))
  simp only [wordOfBytes, UInt32.toNat_or, UInt32.toNat_shiftLeft, UInt8.toNat_toUInt32,
    UInt32.toNat_toUInt8, UInt32.toNat_shiftRight, UInt32.reduceToNat, Nat.reduceMod,
    Nat.testBit_or, Nat.reducePow]
  simp only [h8, h32, Nat.testBit_mod_two_pow, Nat.testBit_shiftLeft, Nat.testBit_shiftRight]
  -- the byte that bit `i` comes from
  rcases Nat.lt_or_ge i 8 with h | h
  · simp [h, show i < 32 by omega, show ¬ 24 ≤ i by omega, show ¬ 16 ≤ i by omega,
      show ¬ 8 ≤ i by omega]
  rcases Nat.lt_or_ge i 16 with h1 | h1
  · simp [h, show i < 32 by omega, show ¬ 24 ≤ i by omega, show ¬ 16 ≤ i by omega,
      show ¬ i < 8 by omega, show i - 8 < 8 by omega]
  rcases Nat.lt_or_ge i 24 with h2 | h2
  · simp [h, h1, show i < 32 by omega, show ¬ 24 ≤ i by omega, show ¬ i < 8 by omega,
      show ¬ i - 8 < 8 by omega, show i - 16 < 8 by omega]
  rcases Nat.lt_or_ge i 32 with h3 | h3
  · simp [h, h1, h2, h3, show ¬ i < 8 by omega, show ¬ i - 8 < 8 by omega,
      show ¬ i - 16 < 8 by omega, show i - 24 < 8 by omega]
  · simp [hhigh h3, show ¬ i < 8 by omega, show ¬ i < 32 by omega]

/-- The byte at `i`, zero past the array. -/
def Frame.byte (f : Frame) (i : Nat) : UInt8 := f.data[i]?.getD 0

/-- A map with the value at one key replaced (`m[k] = v`). -/
def put [DecidableEq κ] (m : κ → Option ν) (k : κ) (v : ν) : κ → Option ν :=
  Function.update m k (some v)

@[simp] theorem put_self [DecidableEq κ] (m : κ → Option ν) (k : κ) (v : ν) :
    put m k v k = some v := by
  simp [put]

theorem put_of_ne [DecidableEq κ] {k' k : κ} (m : κ → Option ν) (v : ν) (h : k' ≠ k) :
    put m k v k' = m k' := by
  simp [put, h]

end CanDriver
