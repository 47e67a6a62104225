import CanDriver.Manager.Transports
import Mathlib.Data.Nat.Bitwise

/-!
# CanDriver.Transport.Frames

What a transport makes of a frame, and what it makes of what comes back.

A SocketCAN frame has 29 bits for an id and carries both flags above them.  A UDP packet has
16 bits for an id and no room for a flag.  `send` of either transport takes every frame: what
does not fit is cut off.
-/

namespace CanDriver

/-- The same frame, as far as its `dlc` goes. -/
structure Carried (frame decoded : Frame) : Prop where
  id : decoded.id = frame.id
  isExtended : decoded.isExtended = frame.isExtended
  isRemoteRequest : decoded.isRemoteRequest = frame.isRemoteRequest
  dlc : decoded.dlc = frame.dlc
  data : ∀ i : Fin 8, i.val < frame.dlc.toNat → decoded.data[i] = frame.data[i]

/-- The bytes that are copied from a frame, or into one; the others are zero. -/
def copyData (dlc : UInt8) (data : Fin 8 → UInt8) : Vector UInt8 8 :=
  Vector.ofFn fun i => if i.val < dlc.toNat then data i else 0

theorem getElem_copyData (dlc : UInt8) (data : Fin 8 → UInt8) (i : Fin 8) :
    (copyData dlc data)[i] = if i.val < dlc.toNat then data i else 0 := by
  simp [copyData]

/-- A `dlc` of at most 8 is not cut off. -/
theorem min_dlc {dlc : UInt8} (h : dlc ≤ 8) : min dlc 8 = dlc := if_pos h

/-! ## SocketCAN -/

/-- `CAN_EFF_FLAG`. -/
def kCanEffFlag : UInt32 := 0x80000000

/-- `CAN_RTR_FLAG`. -/
def kCanRtrFlag : UInt32 := 0x40000000

/-- `CAN_EFF_MASK`. -/
def kCanEffMask : UInt32 := 0x1FFFFFFF

/-- `can_frame`. -/
structure LinuxCanFrame where
  canId : UInt32
  canDlc : UInt8
  data : Vector UInt8 8
deriving DecidableEq

namespace SocketCanController

/-- `toLinuxCanFrame`. -/
def toLinuxCanFrame (frame : Frame) : LinuxCanFrame :=
  let canId := if frame.isExtended then frame.id ||| kCanEffFlag else frame.id
  let canDlc := min frame.dlc 8
  { canId := if frame.isRemoteRequest then canId ||| kCanRtrFlag else canId
    canDlc
    data := copyData canDlc fun i => frame.data[i] }

/-- `fromLinuxCanFrame`. -/
def fromLinuxCanFrame (frame : LinuxCanFrame) : Frame :=
  let dlc := min frame.canDlc 8
  { id := frame.canId &&& kCanEffMask
    isExtended := decide (frame.canId &&& kCanEffFlag ≠ 0)
    isRemoteRequest := decide (frame.canId &&& kCanRtrFlag ≠ 0)
    dlc
    data := copyData dlc fun i => frame.data[i] }

end SocketCanController

/-! ## UDP -/

namespace UdpCanTransport

/-- The packet that `send` makes of a frame. -/
def encodePacket (frame : Frame) : List UInt8 :=
  let dlc := min frame.dlc 8
  [dlc, 0, 0, ((frame.id >>> 8) &&& 0xFF).toUInt8, (frame.id &&& 0xFF).toUInt8] ++
    (copyData dlc fun i => frame.data[i]).toList

/-- The frame that `receiveLoop` makes of the bytes of a packet. -/
def decodePacket (rx : List UInt8) : Option Frame :=
  let dlc := rx.getD 0 0
  if rx.length < 5 then none
  else if 8 < dlc ∨ rx.length < 5 + dlc.toNat then none
  else some
    { id := (rx.getD 3 0).toUInt32 <<< 8 ||| (rx.getD 4 0).toUInt32
      isExtended := false
      isRemoteRequest := false
      dlc
      data := copyData dlc fun i => rx.getD (5 + i.val) 0 }

/-- A packet has a frame in it if it is long enough for what it says of itself. -/
theorem decodePacket_isSome (rx : List UInt8) : (decodePacket rx).isSome = true ↔
    5 ≤ rx.length ∧ rx.headI ≤ 8 ∧ 5 + rx.headI.toNat ≤ rx.length := by
  have hhead : rx.getD 0 0 = rx.headI := by cases rx <;> rfl
  rw [decodePacket, hhead]
  split
  · next hshort => exact iff_of_false Bool.false_ne_true fun h => by omega
  · next hlength =>
    split
    · next hbad =>
      refine iff_of_false Bool.false_ne_true fun h => ?_
      obtain hlong | hcut := hbad
      · exact UInt8.not_le.2 hlong h.2.1
      · omega
    · next hgood =>
      rw [← UInt8.not_le, not_or, not_not] at hgood
      exact iff_of_true rfl ⟨by omega, hgood.1, by omega⟩

/-- A packet of the remote end is dispatched if it has a frame in it. -/
theorem receive_eq (packet : List UInt8) (fromRemote : Bool) (t : UdpCanTransport) :
    t.receive packet fromRemote =
      (t.initialized && fromRemote && (decodePacket packet).isSome) := by
  have hframe := decodePacket_isSome packet
  rw [Bool.eq_iff_iff, receive]
  simp only [Bool.and_eq_true, decide_eq_true_eq, hframe]
  tauto

end UdpCanTransport

/-! ## ids and flags -/

/-- An id with flags above it: its lower bits. -/
theorem toNat_and_effMask (id extended remote : UInt32) (hextended : extended.toNat % 2 ^ 29 = 0)
    (hremote : remote.toNat % 2 ^ 29 = 0) :
    ((id ||| extended ||| remote) &&& kCanEffMask).toNat = id.toNat % 2 ^ 29 := by
  have hmask : kCanEffMask.toNat = 2 ^ 29 - 1 := rfl
  rw [UInt32.toNat_and, hmask, Nat.and_two_pow_sub_one_eq_mod, UInt32.toNat_or, UInt32.toNat_or,
    Nat.or_mod_two_pow, Nat.or_mod_two_pow, hextended, hremote, Nat.or_zero, Nat.or_zero]

/-- A flag is set if its bit is. -/
theorem and_flag_ne_zero {flag : UInt32} {k : Nat} (hflag : flag.toNat = 2 ^ k) (id : UInt32) :
    id &&& flag ≠ 0 ↔ id.toNat.testBit k = true := by
  rw [Ne, ← UInt32.toNat_inj, UInt32.toNat_and, hflag, Nat.and_two_pow]
  cases id.toNat.testBit k <;> simp

namespace SocketCanController

/-- The identifier that is written: the id of the frame and its flags. -/
theorem canId_toLinuxCanFrame (frame : Frame) : (toLinuxCanFrame frame).canId =
    frame.id ||| (if frame.isExtended then kCanEffFlag else 0) |||
      (if frame.isRemoteRequest then kCanRtrFlag else 0) := by
  rw [toLinuxCanFrame]
  dsimp only
  split <;> split <;> simp

theorem id_fromLinuxCanFrame (frame : Frame) :
    (fromLinuxCanFrame (toLinuxCanFrame frame)).id.toNat = frame.id.toNat % 2 ^ 29 := by
  rw [fromLinuxCanFrame]
  dsimp only
  rw [canId_toLinuxCanFrame]
  apply toNat_and_effMask
  · split <;> rfl
  · split <;> rfl

/-- The flags stand above an id of at most 29 bits. -/
theorem testBit_canId {frame : Frame} (hsmall : frame.id.toNat < 2 ^ 29) :
    (toLinuxCanFrame frame).canId.toNat.testBit 31 = frame.isExtended ∧
      (toLinuxCanFrame frame).canId.toNat.testBit 30 = frame.isRemoteRequest := by
  have hbit : ∀ k, 29 ≤ k → frame.id.toNat.testBit k = false := fun k hk =>
    Nat.testBit_lt_two_pow (Nat.lt_of_lt_of_le hsmall (Nat.pow_le_pow_right (by omega) hk))
  have heff : ∀ k, kCanEffFlag.toNat.testBit k = decide (31 = k) := by
    intro k
    rw [show kCanEffFlag.toNat = 2 ^ 31 from rfl, Nat.testBit_two_pow]
  have hrtr : ∀ k, kCanRtrFlag.toNat.testBit k = decide (30 = k) := by
    intro k
    rw [show kCanRtrFlag.toNat = 2 ^ 30 from rfl, Nat.testBit_two_pow]
  rw [canId_toLinuxCanFrame, UInt32.toNat_or, UInt32.toNat_or]
  cases frame.isExtended <;> cases frame.isRemoteRequest <;>
    simp [hbit, heff, hrtr, Nat.testBit_or]

/-- The bytes of a frame of at most 8 come back. -/
theorem data_fromLinuxCanFrame {frame : Frame} (hdlc : frame.dlc ≤ 8) {i : Fin 8}
    (hi : i.val < frame.dlc.toNat) :
    (fromLinuxCanFrame (toLinuxCanFrame frame)).data[i] = frame.data[i] := by
  rw [fromLinuxCanFrame, toLinuxCanFrame]
  dsimp only
  rw [min_dlc hdlc, min_dlc hdlc, getElem_copyData, if_pos hi, getElem_copyData, if_pos hi]

/-- **SocketCAN**: a frame comes back as it was exactly if its id has at most 29 bits. -/
theorem carried_iff (frame : Frame) (hdlc : frame.dlc ≤ 8) :
    Carried frame (fromLinuxCanFrame (toLinuxCanFrame frame)) ↔ frame.id.toNat < 2 ^ 29 := by
  have hid := id_fromLinuxCanFrame frame
  constructor
  · intro h
    rw [h.id] at hid
    omega
  · intro hsmall
    obtain ⟨hextended, hremote⟩ := testBit_canId hsmall
    rw [Nat.mod_eq_of_lt hsmall] at hid
    constructor
    · exact UInt32.toNat_inj.1 hid
    · rw [Bool.eq_iff_iff, fromLinuxCanFrame, decide_eq_true_eq,
        and_flag_ne_zero (k := 31) rfl, hextended]
    · rw [Bool.eq_iff_iff, fromLinuxCanFrame, decide_eq_true_eq,
        and_flag_ne_zero (k := 30) rfl, hremote]
    · rw [fromLinuxCanFrame, toLinuxCanFrame]
      dsimp only
      rw [min_dlc hdlc, min_dlc hdlc]
    · exact fun i hi => data_fromLinuxCanFrame hdlc hi

end SocketCanController

namespace UdpCanTransport

/-- The id that the two bytes of a packet have room for. -/
theorem id_of_packet (id : UInt32) : ((((id >>> 8) &&& 0xFF).toUInt8.toUInt32 <<< 8) |||
    (id &&& 0xFF).toUInt8.toUInt32).toNat = id.toNat % 2 ^ 16 := by
  have hmask : ∀ n : Nat, n &&& 255 = n % 2 ^ 8 := fun n => Nat.and_two_pow_sub_one_eq_mod n 8
  have hor := Nat.shiftLeft_add_eq_or_of_lt (Nat.mod_lt id.toNat (by omega : 0 < 2 ^ 8))
    (id.toNat / 2 ^ 8 % 2 ^ 8)
  simp only [UInt32.toNat_or, UInt32.toNat_shiftLeft, UInt8.toNat_toUInt32, UInt32.toNat_toUInt8,
    UInt32.toNat_and, UInt32.toNat_shiftRight, UInt32.reduceToNat, hmask, Nat.shiftRight_eq_div_pow,
    Nat.shiftLeft_eq, Nat.reduceMod] at hor ⊢
  have hhigh : id.toNat / 2 ^ 8 % 2 ^ 8 % 2 ^ 8 * 2 ^ 8 % 2 ^ 32 =
      id.toNat / 2 ^ 8 % 2 ^ 8 * 2 ^ 8 := by omega
  rw [hhigh, Nat.mod_mod, ← hor]
  omega

theorem copyData_copyData (dlc : UInt8) (data : Fin 8 → UInt8) :
    copyData dlc (fun i => (copyData dlc data)[i]) = copyData dlc data := by
  apply Vector.ext
  intro i hi
  have hcopied := getElem_copyData dlc data ⟨i, hi⟩
  have hagain := getElem_copyData dlc (fun i => (copyData dlc data)[i]) ⟨i, hi⟩
  refine hagain.trans ?_
  split
  · rfl
  · next hout => exact ((if_neg hout).symm.trans hcopied.symm)

/-- What comes back of a frame. -/
theorem decodePacket_encodePacket {frame : Frame} (hdlc : frame.dlc ≤ 8) :
    decodePacket (encodePacket frame) = some
      { id := (((frame.id >>> 8) &&& 0xFF).toUInt8.toUInt32 <<< 8) |||
          (frame.id &&& 0xFF).toUInt8.toUInt32
        isExtended := false
        isRemoteRequest := false
        dlc := frame.dlc
        data := copyData frame.dlc fun i => frame.data[i] } := by
  have hfits : frame.dlc.toNat ≤ 8 := UInt8.le_iff_toNat_le.1 hdlc
  have hlength : (encodePacket frame).length = 13 := by simp [encodePacket]
  have hhead : (encodePacket frame).getD 0 0 = frame.dlc := by
    rw [encodePacket, min_dlc hdlc]
    rfl
  have hbytes : ∀ i : Fin 8, (encodePacket frame).getD (5 + i.val) 0 =
      (copyData frame.dlc fun i => frame.data[i])[i] := by
    intro i
    rw [encodePacket, min_dlc hdlc]
    simp [List.getD_eq_getElem?_getD, Nat.add_comm]
  rw [decodePacket, hlength, hhead, if_neg (by omega), if_neg]
  · have hdata : (fun i : Fin 8 => (encodePacket frame).getD (5 + i.val) 0) =
        fun i => (copyData frame.dlc fun i => frame.data[i])[i] := funext hbytes
    rw [hdata, copyData_copyData]
    rfl
  · rw [not_or, UInt8.not_lt]
    exact ⟨hdlc, by omega⟩

/-- **UDP**: a frame comes back as it was exactly if it is a standard data frame and its id has
at most 16 bits. -/
theorem carried_iff (frame : Frame) (hdlc : frame.dlc ≤ 8) :
    (∃ decoded, decodePacket (encodePacket frame) = some decoded ∧ Carried frame decoded) ↔
      frame.isExtended = false ∧ frame.isRemoteRequest = false ∧ frame.id.toNat < 2 ^ 16 := by
  have hid := id_of_packet frame.id
  rw [decodePacket_encodePacket hdlc]
  constructor
  · rintro ⟨decoded, hsome, h⟩
    obtain rfl := Option.some.inj hsome
    have hkept := h.id
    dsimp only at hkept
    rw [hkept] at hid
    exact ⟨h.isExtended.symm, h.isRemoteRequest.symm, by omega⟩
  · rintro ⟨hextended, hremote, hsmall⟩
    rw [Nat.mod_eq_of_lt hsmall] at hid
    refine ⟨_, rfl, UInt32.toNat_inj.1 hid, hextended.symm, hremote.symm, rfl, fun i hi => ?_⟩
    dsimp only
    rw [getElem_copyData, if_pos hi]

end UdpCanTransport

/-- **Round trips**: each transport gives back the frames that its format has room for, and
no others, though `send` takes every frame. -/
theorem frames_carried_iff (frame : Frame) (hdlc : frame.dlc ≤ 8) :
    (Carried frame
        (SocketCanController.fromLinuxCanFrame (SocketCanController.toLinuxCanFrame frame)) ↔
      frame.id.toNat < 2 ^ 29) ∧
    ((∃ decoded, UdpCanTransport.decodePacket (UdpCanTransport.encodePacket frame) = some decoded ∧
        Carried frame decoded) ↔
      frame.isExtended = false ∧ frame.isRemoteRequest = false ∧ frame.id.toNat < 2 ^ 16) :=
  ⟨SocketCanController.carried_iff frame hdlc, UdpCanTransport.carried_iff frame hdlc⟩

/-- An extended frame to node 5 of the PP protocol. -/
def extendedFrame : Frame :=
  { id := 0x18000005, isExtended := true, isRemoteRequest := false, dlc := 8
    data := #v[1, 2, 3, 4, 5, 6, 7, 8] }

/-- SocketCAN gives it back, UDP does not. -/
theorem frames_carried_iff_extendedFrame :
    (Carried extendedFrame (SocketCanController.fromLinuxCanFrame
        (SocketCanController.toLinuxCanFrame extendedFrame)) ↔
      extendedFrame.id.toNat < 2 ^ 29) ∧
    ((∃ decoded, UdpCanTransport.decodePacket (UdpCanTransport.encodePacket extendedFrame) =
        some decoded ∧ Carried extendedFrame decoded) ↔
      extendedFrame.isExtended = false ∧ extendedFrame.isRemoteRequest = false ∧
        extendedFrame.id.toNat < 2 ^ 16) :=
  frames_carried_iff extendedFrame (by decide)

/-- A UDP packet of the extended frame comes back as a standard frame with another id. -/
theorem extended_frame_altered :
    ¬ ∀ frame : Frame, frame.dlc ≤ 8 →
      Carried frame
          (SocketCanController.fromLinuxCanFrame (SocketCanController.toLinuxCanFrame frame)) ∧
        ∃ decoded, UdpCanTransport.decodePacket (UdpCanTransport.encodePacket frame) =
          some decoded ∧ Carried frame decoded := by
  intro hall
  obtain ⟨-, decoded, hdecoded, hcarried⟩ := hall extendedFrame (by decide)
  have hflag : ((UdpCanTransport.decodePacket (UdpCanTransport.encodePacket extendedFrame)).map
      (·.isExtended)) = some false := by decide +kernel
  rw [hdecoded, Option.map_some, hcarried.isExtended] at hflag
  exact absurd hflag (by decide)

end CanDriver
