import CanDriver.Lib.Split
import CanDriver.JointConfigParser
import Mathlib.Data.List.TakeWhile

/-!
# CanDriver.Transport.DeviceSpec

The device names of UDP transports: `udp://` with a local and a remote endpoint.

The local endpoint is a port, or an address and a port; the remote one has both.  Ports are
decimal and not zero; addresses are looked at when the socket is bound.
-/

namespace CanDriver

open Interact

/-! ## ports -/

/-- `isdigit`. -/
def isDecimalDigit (c : Char) : Bool := '0' ≤ c && c ≤ '9'

/-- `isAllDigits`. -/
def isAllDigits (s : List Char) : Bool := !s.isEmpty && s.all isDecimalDigit

/-- `ULONG_MAX`. -/
def kUlongMax : Nat := 2 ^ 64 - 1

/-- `std::strtoul(s, nullptr, 10)`: a number that does not fit is the largest one, and a minus
sign wraps around. -/
def strtoul10 (s : List Char) : UInt64 :=
  let cs := s.dropWhile isSpace
  let (negative, cs) := match cs with
    | '+' :: cs => (false, cs)
    | '-' :: cs => (true, cs)
    | cs => (false, cs)
  let value := ofDigits 10 (leadingDigits 10 cs)
  if kUlongMax < value then kUlongMax.toUInt64
  else if negative then 0 - value.toUInt64
  else value.toUInt64

/-- `parsePort`. -/
def parsePort (s : List Char) : Option UInt16 :=
  if !isAllDigits s then none
  else
    let raw := strtoul10 s
    if raw = 0 ∨ 65535 < raw then none else some raw.toUInt16

/-! ## device names -/

/-- `UdpCanTransport::EndpointConfig`. -/
structure EndpointConfig where
  localIp : String
  localPort : UInt16
  remoteIp : String
  remotePort : UInt16
deriving DecidableEq, Repr

/-- The local endpoint: its address, if it has one, and the text of its port. -/
def localEndpoint (localPart : List Char) : String × List Char :=
  match splitLast ':' localPart with
  | none => ("0.0.0.0", localPart)
  | some (ip, port) => (if ip.isEmpty then "0.0.0.0" else String.ofList ip, port)

/-- `parseDeviceSpec`: the configuration, or the text of the error. -/
def parseDeviceSpec (deviceSpec : String) : Except String EndpointConfig :=
  if !"udp://".toList.isPrefixOf deviceSpec.toList then
    throw "device spec must start with udp://"
  else
    match splitFirst '@' (deviceSpec.toList.drop 6) with
    | none => throw "missing '@' in udp device spec"
    | some (localPart, remotePart) =>
        if localPart.isEmpty || remotePart.isEmpty then
          throw "invalid local/remote endpoint in udp device spec"
        else
          match splitLast ':' remotePart with
          | none => throw "remote endpoint must be <ip>:<port>"
          | some (remoteIp, remotePortStr) =>
              if remoteIp.isEmpty then throw "remote ip is empty"
              else
                match parsePort (localEndpoint localPart).2 with
                | none => throw "invalid local port"
                | some localPort =>
                    match parsePort remotePortStr with
                    | none => throw "invalid remote port"
                    | some remotePort =>
                        pure
                          { localIp := (localEndpoint localPart).1
                            localPort
                            remoteIp := String.ofList remoteIp
                            remotePort }

/-! ## what is accepted -/

/-- A text of decimal digits that denotes a port. -/
structure SpellsPort (text : List Char) (port : UInt16) : Prop where
  digits : ∀ c ∈ text, '0' ≤ c ∧ c ≤ '9'
  value : Nat.ofDigitChars 10 text 0 = port.toNat
  positive : 0 < port.toNat

/-- A local endpoint: a port, or an address, which may be empty, and a port. -/
def SpellsLocal (text : List Char) (ip : String) (port : UInt16) : Prop :=
  (':' ∉ text ∧ ip = "0.0.0.0" ∧ SpellsPort text port) ∨
    ∃ address portText, text = address ++ ':' :: portText ∧ ':' ∉ portText ∧
      ip = (if address = [] then "0.0.0.0" else String.ofList address) ∧ SpellsPort portText port

/-- A remote endpoint: an address and a port. -/
def SpellsRemote (text : List Char) (ip : String) (port : UInt16) : Prop :=
  ∃ portText, text = ip.toList ++ ':' :: portText ∧ ':' ∉ portText ∧ ip ≠ "" ∧
    SpellsPort portText port

/-- A device name: two endpoints, parted by the first `@`. -/
def SpellsDevice (deviceSpec : String) (cfg : EndpointConfig) : Prop :=
  ∃ localPart remotePart, deviceSpec.toList = "udp://".toList ++ (localPart ++ '@' :: remotePart) ∧
    '@' ∉ localPart ∧ SpellsLocal localPart cfg.localIp cfg.localPort ∧
    SpellsRemote remotePart cfg.remoteIp cfg.remotePort

/-! ## numbers -/

theorem isDecimalDigit_iff {c : Char} : isDecimalDigit c = true ↔ '0' ≤ c ∧ c ≤ '9' := by
  simp [isDecimalDigit]

/-- The value of a decimal digit. -/
theorem digitValue_of_decimal {c : Char} (h : isDecimalDigit c = true) :
    digitValue c = some (c.toNat - '0'.toNat) := by
  rw [digitValue, if_pos (isDecimalDigit_iff.1 h)]

/-- The digits of base 10. -/
theorem isDigit_of_decimal {c : Char} (h : isDecimalDigit c = true) : isDigit 10 c = true := by
  have hle : c.toNat ≤ '9'.toNat := (isDecimalDigit_iff.1 h).2
  have hnine : '9'.toNat = '0'.toNat + 9 := rfl
  rw [isDigit, digitValue_of_decimal h, Option.any_some, decide_eq_true_eq]
  omega

/-- A text of digits is read to its end. -/
theorem ofDigits_leadingDigits {text : List Char} (h : ∀ c ∈ text, isDecimalDigit c = true) :
    ofDigits 10 (leadingDigits 10 text) = Nat.ofDigitChars 10 text 0 := by
  have hall : text.takeWhile (isDigit 10) = text :=
    List.takeWhile_eq_self_iff.2 fun c hc => isDigit_of_decimal (h c hc)
  rw [leadingDigits, hall, ofDigits, List.foldl_map, Nat.ofDigitChars_eq_foldl]
  refine List.foldl_ext _ _ _ fun n c hc => ?_
  rw [digitValue_of_decimal (h c hc), Option.getD_some, Nat.mul_comm]

theorem isSpace_of_decimal {c : Char} (h : isDecimalDigit c = true) : isSpace c = false := by
  by_contra hspace
  rw [Bool.not_eq_false, isSpace] at hspace
  simp only [Bool.or_eq_true, decide_eq_true_eq] at hspace
  obtain ((((rfl | rfl) | rfl) | rfl) | rfl) | rfl := hspace <;> exact absurd h (by decide)

/-- A text of digits has nothing for `strtoul` to skip. -/
theorem strtoul10_of_digits {text : List Char} (h : ∀ c ∈ text, isDecimalDigit c = true) :
    (strtoul10 text).toNat = min (Nat.ofDigitChars 10 text 0) kUlongMax := by
  have hread := ofDigits_leadingDigits h
  rw [strtoul10]
  split
  rename_i negative cs hsign
  have hplain : negative = false ∧ cs = text := by
    cases text with
    | nil =>
        cases hsign
        exact ⟨rfl, rfl⟩
    | cons c rest =>
        have hc := h c List.mem_cons_self
        rw [List.dropWhile_cons_of_neg (by rw [isSpace_of_decimal hc]; exact Bool.false_ne_true)]
          at hsign
        split at hsign
        · next heq =>
          obtain rfl := (List.cons.inj heq).1
          exact absurd hc (by decide)
        · next heq =>
          obtain rfl := (List.cons.inj heq).1
          exact absurd hc (by decide)
        · obtain ⟨rfl, rfl⟩ := Prod.mk.inj hsign
          exact ⟨rfl, rfl⟩
  obtain ⟨rfl, rfl⟩ := hplain
  dsimp only
  rw [hread]
  split
  · next hlarge => rw [min_eq_right hlarge.le]; rfl
  · next hfits =>
    rw [if_neg Bool.false_ne_true, min_eq_left (Nat.not_lt.1 hfits)]
    have hsize : UInt64.size = 2 ^ 64 := rfl
    exact UInt64.toNat_ofNat_of_lt (by rw [kUlongMax] at hfits; omega)

/-- A port is accepted if it is spelled in decimal. -/
theorem parsePort_eq_some {text : List Char} {port : UInt16} :
    parsePort text = some port ↔ SpellsPort text port := by
  have hport := port.toNat_lt
  rw [parsePort]
  by_cases hdigits : ∀ c ∈ text, isDecimalDigit c = true
  · have hvalue := strtoul10_of_digits hdigits
    rw [kUlongMax] at hvalue
    have hzero : strtoul10 text = 0 ↔ (strtoul10 text).toNat = 0 := UInt64.toNat_inj.symm
    have hlarge : 65535 < strtoul10 text ↔ 65535 < (strtoul10 text).toNat := UInt64.lt_iff_toNat_lt
    have hcast : (strtoul10 text).toUInt16.toNat = (strtoul10 text).toNat % 2 ^ 16 :=
      UInt64.toNat_toUInt16 _
    constructor
    · intro h
      rw [Option.ite_none_left_eq_some] at h
      dsimp only at h
      rw [Option.ite_none_left_eq_some, hzero, hlarge, not_or] at h
      obtain ⟨-, ⟨hne, hsmall⟩, hsome⟩ := h
      have hnat := congrArg UInt16.toNat (Option.some.inj hsome)
      exact ⟨fun c hc => isDecimalDigit_iff.1 (hdigits c hc), by omega, by omega⟩
    · rintro ⟨-, hread, hpositive⟩
      have hne : text ≠ [] := by
        rintro rfl
        rw [Nat.ofDigitChars_nil] at hread
        omega
      have hall : isAllDigits text = true := by simpa [isAllDigits, hne] using hdigits
      rw [hall, Bool.not_true, if_neg Bool.false_ne_true]
      dsimp only
      rw [if_neg (by rw [hzero, hlarge]; omega), Option.some.injEq, ← UInt16.toNat_inj, hcast]
      omega
  · have hnot : isAllDigits text = false := by
      rw [isAllDigits, Bool.and_eq_false_iff, List.all_eq_false]
      push Not at hdigits
      exact Or.inr hdigits
    rw [hnot, Bool.not_false, if_pos rfl]
    refine iff_of_false (Option.some_ne_none port).symm fun h => hdigits fun c hc => ?_
    exact isDecimalDigit_iff.2 (h.digits c hc)

/-! ## endpoints -/

/-- The local endpoint of a text. -/
theorem localEndpoint_spells {text : List Char} {ip : String} {port : UInt16} :
    SpellsLocal text ip port ↔
      ip = (localEndpoint text).1 ∧ SpellsPort (localEndpoint text).2 port := by
  rw [localEndpoint]
  cases hsplit : splitLast ':' text with
  | none =>
      have habsent := splitLast_eq_none.1 hsplit
      constructor
      · rintro (⟨-, hip, hport⟩ | ⟨address, portText, rfl, -⟩)
        · exact ⟨hip, hport⟩
        · exact absurd (by simp) habsent
      · rintro ⟨hip, hport⟩
        exact Or.inl ⟨habsent, hip, hport⟩
  | some parts =>
      obtain ⟨address, portText⟩ := parts
      obtain ⟨rfl, hlast⟩ := splitLast_eq_some.1 hsplit
      simp only [List.isEmpty_iff]
      constructor
      · rintro (⟨habsent, -⟩ | ⟨address', portText', htext, hlast', hip, hport⟩)
        · exact absurd (by simp) habsent
        · have hsame := (splitLast_eq_some.2 ⟨htext, hlast'⟩).symm.trans hsplit
          obtain ⟨rfl, rfl⟩ := Prod.mk.inj (Option.some.inj hsame)
          exact ⟨hip, hport⟩
      · rintro ⟨hip, hport⟩
        exact Or.inr ⟨address, portText, rfl, hlast, hip, hport⟩

/-- What follows the prefix of a name. -/
theorem prefix_iff {deviceSpec : String} {body : List Char} :
    ("udp://".toList.isPrefixOf deviceSpec.toList = true ∧ deviceSpec.toList.drop 6 = body) ↔
      deviceSpec.toList = "udp://".toList ++ body := by
  have hdrop : ∀ rest, ("udp://".toList ++ rest).drop 6 = rest := fun _ => rfl
  rw [List.isPrefixOf_iff_prefix]
  constructor
  · rintro ⟨⟨rest, hrest⟩, rfl⟩
    rw [← hrest, hdrop]
  · intro htext
    refine ⟨⟨body, htext.symm⟩, ?_⟩
    rw [htext, hdrop]

/-- A remote endpoint that is accepted. -/
theorem spellsRemote_iff {text : List Char} {ip : String} {port : UInt16} :
    SpellsRemote text ip port ↔ ∃ address portText, splitLast ':' text = some (address, portText) ∧
      address.isEmpty = false ∧ String.ofList address = ip ∧ SpellsPort portText port := by
  simp only [splitLast_eq_some]
  constructor
  · rintro ⟨portText, htext, hlast, hip, hport⟩
    refine ⟨ip.toList, portText, ⟨htext, hlast⟩, ?_, String.ofList_toList, hport⟩
    rw [← Bool.not_eq_true, List.isEmpty_iff, String.toList_eq_nil_iff]
    exact hip
  · rintro ⟨address, portText, ⟨htext, hlast⟩, hne, rfl, hport⟩
    refine ⟨portText, by rw [String.toList_ofList]; exact htext, hlast, ?_, hport⟩
    rw [← Bool.not_eq_true, List.isEmpty_iff] at hne
    rwa [Ne, ← String.toList_eq_nil_iff, String.toList_ofList]

/-- **Device names**: a name is accepted if it spells two endpoints, and its configuration is
what it spells. -/
theorem parseDeviceSpec_eq_ok {deviceSpec : String} {cfg : EndpointConfig} :
    parseDeviceSpec deviceSpec = .ok cfg ↔ SpellsDevice deviceSpec cfg := by
  constructor
  · intro h
    rw [parseDeviceSpec] at h
    split at h
    · cases h
    · next hscheme =>
      rw [Bool.not_eq_true', Bool.not_eq_false] at hscheme
      split at h
      · cases h
      · next localPart remotePart hat =>
        split at h
        · cases h
        · split at h
          · cases h
          · next remoteIp remotePortStr hcolon =>
            split at h
            · cases h
            · next hip =>
              split at h
              · cases h
              · next localPort hlocal =>
                split at h
                · cases h
                · next remotePort hremote =>
                  obtain rfl := Except.ok.inj h
                  obtain ⟨hbody, hfirst⟩ := splitFirst_eq_some.1 hat
                  refine ⟨localPart, remotePart, prefix_iff.1 ⟨hscheme, hbody⟩, hfirst, ?_, ?_⟩
                  · exact localEndpoint_spells.2 ⟨rfl, parsePort_eq_some.1 hlocal⟩
                  · exact spellsRemote_iff.2 ⟨remoteIp, remotePortStr, hcolon,
                      Bool.eq_false_iff.2 hip, rfl, parsePort_eq_some.1 hremote⟩
  · rintro ⟨localPart, remotePart, htext, hfirst, hlocal, hremote⟩
    obtain ⟨hscheme, hbody⟩ := prefix_iff.2 htext
    obtain ⟨hlocalIp, hlocalPort⟩ := localEndpoint_spells.1 hlocal
    obtain ⟨address, portText, hcolon, hip, hremoteIp, hremotePort⟩ := spellsRemote_iff.1 hremote
    have hlocalPart : localPart.isEmpty = false := by
      cases localPart with
      | nil => exact absurd hlocalPort.positive (hlocalPort.value ▸ Nat.lt_irrefl 0)
      | cons c rest => rfl
    have hremotePart : remotePart.isEmpty = false := by
      rw [(splitLast_eq_some.1 hcolon).1]
      cases address <;> rfl
    rw [parseDeviceSpec, hscheme, Bool.not_true, if_neg Bool.false_ne_true, hbody,
      splitFirst_append hfirst]
    dsimp only
    rw [hlocalPart, hremotePart, Bool.or_self, if_neg Bool.false_ne_true, hcolon]
    dsimp only
    rw [hip, if_neg Bool.false_ne_true, parsePort_eq_some.2 hlocalPort,
      parsePort_eq_some.2 hremotePort]
    dsimp only
    rw [← hlocalIp, hremoteIp]
    rfl

end CanDriver
