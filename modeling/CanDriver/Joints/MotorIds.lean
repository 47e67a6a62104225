import CanDriver.JointConfigParser
import Mathlib.Data.List.TakeWhile

/-!
# CanDriver.Joints.MotorIds

Which motor ids are accepted, and which of them are not what the text says.

A motor id is a number, or a text that spells one.  `stoul` reads the longest literal it
finds behind blanks and a sign and ignores the rest; what it reads is narrowed to 32 bits
before the range is checked.
-/

namespace CanDriver

open JointConfigParser

/-! ## literals -/

/-- The number written by these characters. -/
def numberOf (base : Nat) (cs : List Char) : Nat :=
  ofDigits base (cs.map fun c => (digitValue c).getD 0)

/-- An integer literal and its value: decimal, octal behind a zero, hexadecimal behind `0x`. -/
inductive IsLiteral : List Char → Nat → Prop where
  | decimal {c : Char} {cs : List Char} (h : ∀ d ∈ c :: cs, isDigit 10 d = true) (hc : c ≠ '0') :
      IsLiteral (c :: cs) (numberOf 10 (c :: cs))
  | octal {cs : List Char} (h : ∀ d ∈ '0' :: cs, isDigit 8 d = true) :
      IsLiteral ('0' :: cs) (numberOf 8 ('0' :: cs))
  | hex {x : Char} {cs : List Char} (hx : x = 'x' ∨ x = 'X') (hne : cs ≠ [])
      (h : ∀ d ∈ cs, isDigit 16 d = true) : IsLiteral ('0' :: x :: cs) (numberOf 16 cs)

/-- What a value given as motor id denotes. -/
def XmlRpcValue.Denotes : XmlRpcValue → Nat → Prop
  | int n, k => n.toInt = k
  | string s, k => IsLiteral s.toList k
  | _, _ => False

theorem not_isDigit_of_x {x : Char} (hx : x = 'x' ∨ x = 'X') : isDigit 8 x = false := by
  obtain rfl | rfl := hx
  · decide
  · decide

/-- A text has one value. -/
theorem IsLiteral.unique {cs : List Char} {m n : Nat} (hm : IsLiteral cs m) (hn : IsLiteral cs n) :
    m = n := by
  cases hm with
  | decimal h hc =>
      cases hn with
      | decimal => rfl
      | octal => exact absurd rfl hc
      | hex => exact absurd rfl hc
  | octal h =>
      cases hn with
      | decimal _ hc => exact absurd rfl hc
      | octal => rfl
      | @hex x _ hx =>
          have := h x (by simp)
          rw [not_isDigit_of_x hx] at this
          cases this
  | @hex x _ hx =>
      cases hn with
      | decimal _ hc => exact absurd rfl hc
      | octal h =>
          have := h x (by simp)
          rw [not_isDigit_of_x hx] at this
          cases this
      | hex => rfl

/-- A literal begins with a decimal digit. -/
theorem IsLiteral.head {cs : List Char} {value : Nat} (h : IsLiteral cs value) :
    ∃ c cs', cs = c :: cs' ∧ isDigit 10 c = true := by
  cases h with
  | @decimal c cs h => exact ⟨c, cs, rfl, h c List.mem_cons_self⟩
  | octal => exact ⟨_, _, rfl, by decide⟩
  | hex => exact ⟨_, _, rfl, by decide⟩

/-- Behind `0x` all digits are hexadecimal. -/
theorem IsLiteral.of_x {x : Char} {cs : List Char} {value : Nat}
    (h : IsLiteral ('0' :: x :: cs) value) (hx : x = 'x' ∨ x = 'X') :
    ∀ d ∈ cs, isDigit 16 d = true := by
  cases h with
  | decimal _ hc => exact absurd rfl hc
  | octal h =>
      have := h x (by simp)
      rw [not_isDigit_of_x hx] at this
      cases this
  | hex _ _ h => exact h

/-- Behind a zero they are octal, unless an `x` and a hexadecimal one follow. -/
theorem IsLiteral.of_zero {cs : List Char} {value : Nat} (h : IsLiteral ('0' :: cs) value) :
    (∀ d ∈ cs, isDigit 8 d = true) ∨
      ∃ x c cs', cs = x :: c :: cs' ∧ (x = 'x' ∨ x = 'X') ∧ isDigit 16 c = true := by
  cases h with
  | decimal _ hc => exact absurd rfl hc
  | octal h => exact .inl fun d hd => h d (List.mem_cons_of_mem _ hd)
  | @hex x digits hx hne h =>
      cases digits with
      | nil => exact absurd rfl hne
      | cons c cs' => exact .inr ⟨x, c, cs', rfl, hx, h c List.mem_cons_self⟩

/-- Otherwise they are decimal. -/
theorem IsLiteral.of_nonzero {cs : List Char} {value : Nat} (h : IsLiteral cs value)
    (hhead : cs.head? ≠ some '0') : ∀ d ∈ cs, isDigit 10 d = true := by
  cases h with
  | decimal h => exact h
  | octal => exact absurd rfl hhead
  | hex => exact absurd rfl hhead

/-- And their number is the value. -/
theorem IsLiteral.value_of_nonzero {cs : List Char} {value : Nat} (h : IsLiteral cs value)
    (hhead : cs.head? ≠ some '0') : value = numberOf 10 cs := by
  cases h with
  | decimal => rfl
  | octal => exact absurd rfl hhead
  | hex => exact absurd rfl hhead

/-! ## the longest literal -/

/-- A literal that cannot be continued into what stands behind it. -/
structure LongestLiteral (literal rest : List Char) (value : Nat) : Prop where
  isLiteral : IsLiteral literal value
  longest : ∀ more after v, rest = more ++ after → IsLiteral (literal ++ more) v → more = []

/-- A text begins with one longest literal. -/
theorem LongestLiteral.unique {literal literal' rest rest' : List Char} {m n : Nat}
    (h : LongestLiteral literal rest m) (h' : LongestLiteral literal' rest' n)
    (heq : literal ++ rest = literal' ++ rest') : literal = literal' ∧ m = n := by
  have hliteral : literal = literal' := by
    obtain ⟨more, hmore, hrest⟩ | ⟨more, hmore, hrest⟩ := List.append_eq_append_iff.1 heq
    · have hnil := h.longest more rest' n hrest (hmore ▸ h'.isLiteral)
      rw [hmore, hnil, List.append_nil]
    · have hnil := h'.longest more rest m hrest (hmore ▸ h.isLiteral)
      rw [hmore, hnil, List.append_nil]
  subst hliteral
  exact ⟨rfl, h.isLiteral.unique h'.isLiteral⟩

/-- Behind the characters of a kind stands none of the kind. -/
theorem eq_nil_of_dropWhile {p : Char → Bool} {cs more after : List Char}
    (h : cs.dropWhile p = more ++ after) (hall : ∀ c ∈ more, p c = true) : more = [] := by
  cases more with
  | nil => rfl
  | cons c more =>
      have hhead := List.head?_dropWhile_not p cs
      rw [h, List.cons_append, List.head?_cons] at hhead
      have hc := hall c List.mem_cons_self
      simp only at hhead
      rw [hhead] at hc
      cases hc

/-- What `detectBase` makes of a text: behind `0x` and a digit base 16, behind a zero base 8,
base 10 otherwise. -/
theorem detectBase_cases (cs : List Char) :
    (∃ x c cs', cs = '0' :: x :: c :: cs' ∧ (x = 'x' ∨ x = 'X') ∧ isDigit 16 c = true ∧
      detectBase cs = (16, c :: cs')) ∨
    (∃ cs', cs = '0' :: cs' ∧
      (∀ x c cs'', cs' = x :: c :: cs'' → (x = 'x' ∨ x = 'X') → isDigit 16 c = false) ∧
      detectBase cs = (8, cs)) ∨
    (cs.head? ≠ some '0' ∧ detectBase cs = (10, cs)) := by
  fun_cases detectBase cs with
  | case1 x c cs' hhex =>
      simp only [Bool.and_eq_true, Bool.or_eq_true, decide_eq_true_eq] at hhex
      exact .inl ⟨x, c, cs', rfl, hhex.1, hhex.2, rfl⟩
  | case2 x c cs' hhex =>
      refine .inr (.inl ⟨x :: c :: cs', rfl, fun x' c' cs'' h hx => ?_, rfl⟩)
      cases h
      simpa [hx] using hhex
  | case3 cs' hshort =>
      exact .inr (.inl ⟨cs', rfl, fun x c cs'' h _ => absurd h (hshort x c cs''), rfl⟩)
  | case4 _ _ hzero =>
      refine .inr (.inr ⟨fun hhead => ?_, rfl⟩)
      obtain ⟨cs', hcs⟩ := List.head?_eq_some_iff.1 hhead
      exact hzero cs' hcs

/-- The digits `stoul` reads, behind the sign. -/
def scanned (cs : List Char) : List Char :=
  (detectBase cs).2.takeWhile (isDigit (detectBase cs).1)

theorem isDigit_of_mem_takeWhile {base : Nat} {cs : List Char} :
    ∀ d ∈ cs.takeWhile (isDigit base), isDigit base d = true :=
  fun _ hd => List.mem_takeWhile_imp hd

/-- What is scanned behind the sign is the longest literal there. -/
theorem longestLiteral_of_scanned {cs : List Char} (h : scanned cs ≠ []) :
    ∃ literal rest, cs = literal ++ rest ∧
      LongestLiteral literal rest (numberOf (detectBase cs).1 (scanned cs)) := by
  obtain ⟨x, c, cs', rfl, hx, hc, hbase⟩ | ⟨cs', rfl, hnot, hbase⟩ | ⟨hhead, hbase⟩ :=
    detectBase_cases cs
  all_goals
    rw [scanned, hbase] at h ⊢
    dsimp only at h ⊢
  · -- behind `0x`
    have hsplit := List.takeWhile_append_dropWhile (p := isDigit 16) (l := c :: cs')
    refine ⟨'0' :: x :: (c :: cs').takeWhile (isDigit 16), (c :: cs').dropWhile (isDigit 16), ?_,
      .hex hx h isDigit_of_mem_takeWhile, fun more after v hrest hmore => ?_⟩
    · rw [List.cons_append, List.cons_append, hsplit]
    · refine eq_nil_of_dropWhile hrest fun d hd => ?_
      exact hmore.of_x hx d (List.mem_append_right _ hd)
  · -- behind a zero
    have hzero : isDigit 8 '0' = true := by decide
    rw [List.takeWhile_cons_of_pos hzero]
    refine ⟨'0' :: cs'.takeWhile (isDigit 8), cs'.dropWhile (isDigit 8), ?_,
      .octal ?_, fun more after v hrest hmore => ?_⟩
    · rw [List.cons_append, List.takeWhile_append_dropWhile]
    · rw [← List.takeWhile_cons_of_pos hzero]
      exact isDigit_of_mem_takeWhile
    · obtain hoctal | ⟨x, c, cs'', heq, hx, hc⟩ := hmore.of_zero
      · exact eq_nil_of_dropWhile hrest fun d hd => hoctal d (List.mem_append_right _ hd)
      · -- the `x` would have been seen
        have hcs : cs' = x :: c :: (cs'' ++ after) := by
          have heq : cs'.takeWhile (isDigit 8) ++ more = x :: c :: cs'' := heq
          rw [← List.takeWhile_append_dropWhile (p := isDigit 8) (l := cs'), hrest,
            ← List.append_assoc, heq]
          rfl
        rw [hnot x c _ hcs hx] at hc
        cases hc
  · -- anywhere else
    have hsplit := List.takeWhile_append_dropWhile (p := isDigit 10) (l := cs)
    cases hdigits : cs.takeWhile (isDigit 10) with
    | nil => exact absurd hdigits h
    | cons c literal =>
        rw [hdigits] at hsplit
        have hall : ∀ d ∈ c :: literal, isDigit 10 d = true := hdigits ▸ isDigit_of_mem_takeWhile
        have hc : c ≠ '0' := by
          rintro rfl
          exact hhead (by rw [← hsplit]; rfl)
        refine ⟨c :: literal, cs.dropWhile (isDigit 10), hsplit.symm, .decimal hall hc,
          fun more after v hrest hmore => ?_⟩
        refine eq_nil_of_dropWhile hrest fun d hd => ?_
        refine hmore.of_nonzero ?_ d (List.mem_append_right _ hd)
        rw [List.cons_append, List.head?_cons]
        exact fun hsome => hc (Option.some.inj hsome)

/-- Something is scanned where a decimal digit stands. -/
theorem scanned_ne_nil {c : Char} {cs : List Char} (hc : isDigit 10 c = true) :
    scanned (c :: cs) ≠ [] := by
  obtain ⟨x, d, cs', heq, hx, hd, hbase⟩ | ⟨cs', heq, hnot, hbase⟩ | ⟨hhead, hbase⟩ :=
    detectBase_cases (c :: cs)
  · rw [scanned, hbase, List.takeWhile_cons_of_pos hd]
    exact List.cons_ne_nil _ _
  · obtain ⟨rfl, -⟩ := List.cons.inj heq
    have hzero : isDigit 8 '0' = true := by decide
    rw [scanned, hbase, List.takeWhile_cons_of_pos hzero]
    exact List.cons_ne_nil _ _
  · rw [scanned, hbase, List.takeWhile_cons_of_pos hc]
    exact List.cons_ne_nil _ _

/-! ## signs and blanks -/

/-- A sign, if there is one, and what stands behind it. -/
def splitSign : List Char → Bool × List Char
  | '+' :: cs => (false, cs)
  | '-' :: cs => (true, cs)
  | cs => (false, cs)

/-- `stoul` on what stands behind blanks and a sign. -/
theorem stoul_of_splitSign {s : String} {negative : Bool} {cs : List Char}
    (h : splitSign (s.toList.dropWhile isSpace) = (negative, cs)) :
    stoul s =
      if scanned cs = [] then none
      else if 2 ^ 64 ≤ numberOf (detectBase cs).1 (scanned cs) then none
      else if negative then some (0 - (numberOf (detectBase cs).1 (scanned cs)).toUInt64)
      else some (numberOf (detectBase cs).1 (scanned cs)).toUInt64 := by
  have hdigits : (leadingDigits (detectBase cs).1 (detectBase cs).2).isEmpty = true ↔
      scanned cs = [] := by
    rw [leadingDigits, List.isEmpty_map, List.isEmpty_iff]
    rfl
  have hstoul : stoul s =
      if (leadingDigits (detectBase cs).1 (detectBase cs).2).isEmpty then none
      else if 2 ^ 64 ≤ numberOf (detectBase cs).1 (scanned cs) then none
      else if negative then some (0 - (numberOf (detectBase cs).1 (scanned cs)).toUInt64)
      else some (numberOf (detectBase cs).1 (scanned cs)).toUInt64 := by
    rw [stoul]
    split
    rename_i sign behind hsplit
    have hsame : (sign, behind) = (negative, cs) := hsplit.symm.trans h
    obtain ⟨rfl, rfl⟩ := Prod.mk.inj hsame
    rfl
  rw [hstoul]
  simp only [hdigits]

/-- The parts of a text that is read. -/
structure Spelling where
  blanks : List Char
  sign : List Char
  literal : List Char
  rest : List Char

/-- The whole text. -/
def Spelling.text (p : Spelling) : List Char := p.blanks ++ (p.sign ++ (p.literal ++ p.rest))

/-- Blanks, a sign or none, the longest literal and whatever follows it. -/
structure Spelling.Reads (p : Spelling) (value : Nat) : Prop where
  blanks : ∀ c ∈ p.blanks, isSpace c = true
  sign : p.sign = [] ∨ p.sign = ['+'] ∨ p.sign = ['-']
  literal : LongestLiteral p.literal p.rest value

/-- The low 32 bits of what is read; behind a minus sign it is counted down from `2 ^ 64`. -/
def Spelling.narrowed (p : Spelling) (value : Nat) : Nat :=
  (if p.sign = ['-'] then 2 ^ 64 - value else value) % 2 ^ 32

theorem isSpace_of_isDigit {c : Char} (hc : isDigit 10 c = true) : isSpace c = false := by
  by_contra hspace
  rw [Bool.not_eq_false, isSpace] at hspace
  simp only [Bool.or_eq_true, decide_eq_true_eq] at hspace
  obtain ((((rfl | rfl) | rfl) | rfl) | rfl) | rfl := hspace <;> exact absurd hc (by decide)

theorem splitSign_of_isDigit {c : Char} {cs : List Char} (hc : isDigit 10 c = true) :
    splitSign (c :: cs) = (false, c :: cs) := by
  unfold splitSign
  split
  · next heq =>
    obtain rfl := (List.cons.inj heq).1
    exact absurd hc (by decide)
  · next heq =>
    obtain rfl := (List.cons.inj heq).1
    exact absurd hc (by decide)
  · rfl

/-- A sign is split off as it stands. -/
theorem splitSign_cases (cs : List Char) :
    ∃ sign, (sign = [] ∨ sign = ['+'] ∨ sign = ['-']) ∧ cs = sign ++ (splitSign cs).2 := by
  fun_cases splitSign cs with
  | case1 cs => exact ⟨['+'], .inr (.inl rfl), rfl⟩
  | case2 cs => exact ⟨['-'], .inr (.inr rfl), rfl⟩
  | case3 => exact ⟨[], .inl rfl, rfl⟩

theorem dropWhile_isSpace {blanks cs : List Char} {c : Char}
    (h : ∀ c ∈ blanks, isSpace c = true) (hc : isSpace c = false) :
    (blanks ++ c :: cs).dropWhile isSpace = c :: cs := by
  rw [List.dropWhile_append_of_pos h, List.dropWhile_cons_of_neg (by simp [hc])]

/-- Behind the blanks the sign is found, and behind the sign the literal. -/
theorem Spelling.Reads.splitSign_eq {p : Spelling} {value : Nat} (h : p.Reads value) :
    splitSign (p.text.dropWhile isSpace) = (decide (p.sign = ['-']), p.literal ++ p.rest) := by
  obtain ⟨c, cs, hliteral, hc⟩ := h.literal.isLiteral.head
  obtain hsign | hsign | hsign := h.sign
  · rw [text, hsign, hliteral, List.nil_append, List.cons_append,
      dropWhile_isSpace h.blanks (isSpace_of_isDigit hc), splitSign_of_isDigit hc]
    rfl
  · rw [text, hsign, List.singleton_append, dropWhile_isSpace h.blanks (by decide)]
    rfl
  · rw [text, hsign, List.singleton_append, dropWhile_isSpace h.blanks (by decide)]
    rfl

/-- A text that reads as a number is read as that number. -/
theorem Spelling.Reads.stoul_eq {p : Spelling} {value : Nat} {s : String} (h : p.Reads value)
    (htext : s.toList = p.text) :
    stoul s =
      if 2 ^ 64 ≤ value then none
      else if p.sign = ['-'] then some (0 - value.toUInt64)
      else some value.toUInt64 := by
  obtain ⟨c, cs, hliteral, hc⟩ := h.literal.isLiteral.head
  have hne : scanned (p.literal ++ p.rest) ≠ [] := by
    rw [hliteral, List.cons_append]
    exact scanned_ne_nil hc
  obtain ⟨literal, rest, hparts, hlongest⟩ := longestLiteral_of_scanned hne
  obtain ⟨-, hvalue⟩ := h.literal.unique hlongest hparts
  rw [stoul_of_splitSign (htext ▸ h.splitSign_eq), if_neg hne, ← hvalue]
  simp only [decide_eq_true_eq]

/-- What is read is spelled. -/
theorem exists_spelling {s : String} {n : UInt64} (h : stoul s = some n) :
    ∃ (p : Spelling) (value : Nat), p.Reads value ∧ s.toList = p.text := by
  obtain ⟨sign, hsign, hbehind⟩ := splitSign_cases (s.toList.dropWhile isSpace)
  cases hsplit : splitSign (s.toList.dropWhile isSpace) with
  | mk negative cs =>
      rw [stoul_of_splitSign hsplit, Option.ite_none_left_eq_some] at h
      rw [hsplit] at hbehind
      obtain ⟨literal, rest, hcs, hlongest⟩ := longestLiteral_of_scanned h.1
      have hblanks := List.takeWhile_append_dropWhile (p := isSpace) (l := s.toList)
      refine ⟨⟨s.toList.takeWhile isSpace, sign, literal, rest⟩, _,
        ⟨fun c hc => List.mem_takeWhile_imp hc, hsign, hlongest⟩, ?_⟩
      rw [Spelling.text, ← hcs, ← hbehind, hblanks]

/-! ## what is accepted -/

/-- A text read as another number than it spells, or spelling none: its longest literal, behind
blanks and a sign, is not all of it or too large, and the low 32 bits of it are in range. -/
def XmlRpcValue.Misread (value : XmlRpcValue) : Prop :=
  ∃ (s : String) (p : Spelling) (n : Nat), value = .string s ∧ s.toList = p.text ∧ p.Reads n ∧
    n < 2 ^ 64 ∧ p.narrowed n ≤ 65535 ∧ (p.literal ≠ s.toList ∨ 65535 < n)

/-- A signed number of 32 bits by its bits. -/
theorem toInt_eq_cond (raw : Int32) :
    raw.toInt = if raw.toUInt32.toNat < 2 ^ 31 then (raw.toUInt32.toNat : Int)
      else raw.toUInt32.toNat - 2 ^ 32 := by
  have hbits : raw.toInt = if 2 * raw.toUInt32.toNat < 2 ^ 32 then (raw.toUInt32.toNat : Int)
      else (raw.toUInt32.toNat : Int) - ((2 ^ 32 : Nat) : Int) := BitVec.toInt_eq_toNat_cond _
  rw [hbits]
  split <;> split <;> omega

/-- The range check lets through what fits into 16 bits. -/
theorem inRange_iff {raw : Int32} {id : MotorID} :
    (¬(raw < 0 ∨ 65535 < raw) ∧ raw.toUInt32.toUInt16 = id) ↔ raw.toInt = id.toNat := by
  have hid := id.toNat_lt
  have hraw := raw.toUInt32.toNat_lt
  have hcond := toInt_eq_cond raw
  have hzero : (0 : Int32).toInt = 0 := by decide
  have hmax : (65535 : Int32).toInt = 65535 := by decide
  have hcast : raw.toUInt32.toUInt16.toNat = raw.toUInt32.toNat % 2 ^ 16 := UInt32.toNat_toUInt16 _
  rw [Int32.lt_iff_toInt_lt, Int32.lt_iff_toInt_lt, hzero, hmax, ← UInt16.toNat_inj, hcast]
  constructor
  · rintro ⟨hrange, heq⟩
    split at hcond <;> omega
  · intro heq
    split at hcond <;> omega

/-- A number is accepted if it fits into 16 bits. -/
theorem parseMotorId_int {n : Int32} {jointName : String} {id : MotorID} :
    parseMotorId (.int n) jointName = .ok id ↔ n.toInt = id.toNat := by
  rw [← inRange_iff]
  by_cases hrange : n < 0 ∨ 65535 < n
  · simp [parseMotorId, reject, hrange]
  · simp only [parseMotorId, pure_bind, hrange, if_false, not_false_iff, true_and]
    exact ⟨Except.ok.inj, congrArg Except.ok⟩

/-- A text is accepted if the low 32 bits of what is read fit into 16 bits. -/
theorem parseMotorId_string {s jointName : String} {id : MotorID} :
    parseMotorId (.string s) jointName = .ok id ↔
      ∃ n, stoul s = some n ∧ n.toNat % 2 ^ 32 = id.toNat := by
  cases hread : stoul s with
  | none =>
      have hthrow : parseMotorId (.string s) jointName =
          reject jointName ("invalid motor_id '" ++ s ++ "' (stoul).") := by
        simp only [parseMotorId, hread]
        rfl
      simp [hthrow, reject]
  | some n =>
      have hsame : parseMotorId (.string s) jointName =
          parseMotorId (.int n.toUInt32.toInt32) jointName := by
        simp only [parseMotorId, hread, pure_bind]
      have hid := id.toNat_lt
      have hlow : n.toUInt32.toInt32.toUInt32.toNat = n.toNat % 2 ^ 32 := UInt64.toNat_toUInt32 _
      have hcond := toInt_eq_cond n.toUInt32.toInt32
      rw [hlow] at hcond
      rw [hsame, parseMotorId_int]
      constructor
      · intro heq
        refine ⟨n, rfl, ?_⟩
        split at hcond <;> omega
      · rintro ⟨m, hm, heq⟩
        obtain rfl := Option.some.inj hm
        split at hcond <;> omega

/-- What is accepted of a text that is spelled. -/
theorem Spelling.Reads.parseMotorId_iff {p : Spelling} {n : Nat} {s jointName : String}
    {id : MotorID} (h : p.Reads n) (htext : s.toList = p.text) :
    parseMotorId (.string s) jointName = .ok id ↔ n < 2 ^ 64 ∧ p.narrowed n = id.toNat := by
  rw [parseMotorId_string, h.stoul_eq htext]
  by_cases hfits : n < 2 ^ 64
  · have hn : n.toUInt64.toNat = n := UInt64.toNat_ofNat_of_lt hfits
    rw [if_neg (Nat.not_le.2 hfits), narrowed]
    by_cases hsign : p.sign = ['-']
    · have hneg : (0 - n.toUInt64).toNat = (2 ^ 64 - n) % 2 ^ 64 := by
        rw [UInt64.toNat_sub, hn]
        rfl
      simp only [hsign, if_true, Option.some.injEq, exists_eq_left', hneg, hfits, true_and]
      omega
    · simp only [hsign, if_false, Option.some.injEq, exists_eq_left', hn, hfits, true_and]
  · simp only [if_pos (Nat.not_lt.1 hfits), hfits, reduceCtorEq, false_and, exists_false]

/-- A literal is read as it stands. -/
theorem IsLiteral.reads {cs : List Char} {n : Nat} (h : IsLiteral cs n) :
    Spelling.Reads ⟨[], [], cs, []⟩ n where
  blanks := fun _ hc => absurd hc List.not_mem_nil
  sign := .inl rfl
  literal := ⟨h, fun _ _ _ hnil _ => (List.append_eq_nil_iff.1 hnil.symm).1⟩

/-- A text that is a literal has neither blanks nor a sign, and nothing follows. -/
theorem Spelling.Reads.of_isLiteral {p : Spelling} {m n : Nat} (h : p.Reads m)
    (htext : IsLiteral p.text n) : p.literal = p.text ∧ m = n := by
  obtain ⟨c, cs, hcs, hc⟩ := htext.head
  obtain ⟨d, ds, hds, hd⟩ := h.literal.isLiteral.head
  have hblanks : p.blanks = [] := by
    cases hb : p.blanks with
    | nil => rfl
    | cons b blanks =>
        rw [text, hb, List.cons_append] at hcs
        obtain ⟨rfl, -⟩ := List.cons.inj hcs
        have hspace := h.blanks b (hb ▸ List.mem_cons_self)
        rw [isSpace_of_isDigit hc] at hspace
        cases hspace
  have hsign : p.sign = [] := by
    obtain hsign | hsign | hsign := h.sign
    · exact hsign
    all_goals
      rw [text, hblanks, hsign, List.nil_append, List.singleton_append] at hcs
      obtain ⟨rfl, -⟩ := List.cons.inj hcs
      exact absurd hc (by decide)
  have hparts : p.text = p.literal ++ p.rest := by
    rw [text, hblanks, hsign, List.nil_append, List.nil_append]
  rw [hparts] at htext ⊢
  have hrest := h.literal.longest p.rest [] n (List.append_nil _).symm htext
  rw [hrest, List.append_nil] at htext ⊢
  exact ⟨rfl, h.literal.isLiteral.unique htext⟩

/-- A text that is its literal has no sign. -/
theorem Spelling.narrowed_of_literal {p : Spelling} {n : Nat} (h : p.literal = p.text) :
    p.narrowed n = n % 2 ^ 32 := by
  have hlength := congrArg List.length h
  simp only [text, List.length_append] at hlength
  have hsign : p.sign = [] := List.eq_nil_of_length_eq_zero (by omega)
  rw [narrowed, hsign]
  rfl

/-- A motor id is accepted exactly if it is, or spells, a number of 16 bits, and then is that
number, unless it is a text misread. -/
theorem parseMotorId_exact_iff (value : XmlRpcValue) (jointName : String) :
    (∀ id, parseMotorId value jointName = .ok id ↔ value.Denotes id.toNat) ↔ ¬value.Misread := by
  cases value with
  | int n =>
      have hnot : ¬(XmlRpcValue.int n).Misread := by
        rintro ⟨s, p, k, hs, -⟩
        cases hs
      simp only [hnot, not_false_iff, iff_true]
      exact fun id => parseMotorId_int
  | string s =>
      constructor
      · rintro hexact ⟨_, p, n, hs, htext, hreads, hfits, hrange, hwrong⟩
        cases hs
        have hsize : UInt16.size = 65536 := rfl
        have hid : (UInt16.ofNat (p.narrowed n)).toNat = p.narrowed n :=
          UInt16.toNat_ofNat_of_lt (by omega)
        have haccepted : parseMotorId (.string s) jointName = .ok (.ofNat (p.narrowed n)) :=
          (hreads.parseMotorId_iff htext).2 ⟨hfits, hid.symm⟩
        have hliteral : IsLiteral p.text (p.narrowed n) := by
          have hdenotes := (hexact _).1 haccepted
          rw [hid] at hdenotes
          exact htext ▸ hdenotes
        obtain ⟨hwhole, hvalue⟩ := hreads.of_isLiteral hliteral
        obtain hpart | hlarge := hwrong
        · exact hpart (hwhole.trans htext.symm)
        · omega
      · intro hnot id
        constructor
        · intro haccepted
          obtain ⟨m, hread, -⟩ := parseMotorId_string.1 haccepted
          obtain ⟨p, n, hreads, htext⟩ := exists_spelling hread
          obtain ⟨hfits, hid⟩ := (hreads.parseMotorId_iff htext).1 haccepted
          have hlt := id.toNat_lt
          have hright : ¬(p.literal ≠ s.toList ∨ 65535 < n) := fun hwrong =>
            hnot ⟨s, p, n, rfl, htext, hreads, hfits, by omega, hwrong⟩
          rw [not_or, not_not] at hright
          have hnarrowed := Spelling.narrowed_of_literal (n := n) (hright.1.trans htext)
          have hvalue : n = id.toNat := by omega
          have hliteral := hreads.literal.isLiteral
          rw [hright.1, hvalue] at hliteral
          exact hliteral
        · intro hliteral
          have hlt := id.toNat_lt
          refine (IsLiteral.reads hliteral).parseMotorId_iff (List.append_nil _).symm |>.2 ?_
          refine ⟨by omega, ?_⟩
          rw [Spelling.narrowed_of_literal (List.append_nil _).symm]
          omega
  | _ =>
      constructor
      · rintro - ⟨s, p, n, hs, -⟩
        cases hs
      · intro _ id
        have hreject : ∀ id', reject jointName "motor_id must be int or string." ≠
            (.ok id' : Except ParseFailure MotorID) := fun _ h => by cases h
        exact ⟨fun haccepted => absurd haccepted (hreject id), False.elim⟩

/-- `2 ^ 32 + 1` is taken for 1, and a text that only begins with a number for that number. -/
theorem motorIds_misread :
    (¬∀ id, parseMotorId (.string "4294967297") "arm" = .ok id ↔
      (XmlRpcValue.string "4294967297").Denotes id.toNat) ∧
    ¬∀ id, parseMotorId (.string "5abc") "arm" = .ok id ↔
      (XmlRpcValue.string "5abc").Denotes id.toNat := by
  constructor
  · intro h
    have haccepted : parseMotorId (.string "4294967297") "arm" = .ok 1 := by decide +kernel
    have hdenotes : IsLiteral "4294967297".toList 1 := (h 1).1 haccepted
    exact absurd (hdenotes.value_of_nonzero (by decide +kernel)) (by decide +kernel)
  · intro h
    have haccepted : parseMotorId (.string "5abc") "arm" = .ok 5 := by decide +kernel
    have hdenotes : IsLiteral "5abc".toList 5 := (h 5).1 haccepted
    have ha : isDigit 10 'a' = true :=
      hdenotes.of_nonzero (by decide +kernel) 'a' (by decide +kernel)
    exact absurd ha (by decide)

end CanDriver
