import Ugpibd.Library.Text

/-! Hexadecimal numbers of eight bits, one at a time as a program's standard library reads them, and
bytes as pairs of digits. The library takes a plus sign before a number, so a pair may begin with one. -/
namespace Ugpibd.Library

/-- Why a text is no number. -/
inductive ParseIntError
  | empty
  | invalidDigit
  | posOverflow
  deriving DecidableEq, Repr

def hexDigit (c : Char) : Option Nat :=
  let n := c.toNat
  if 48 ≤ n ∧ n ≤ 57 then some (n - 48)
  -- small letters, then capital ones
  else if 97 ≤ n ∧ n ≤ 102 then some (n - 87)
  else if 65 ≤ n ∧ n ≤ 70 then some (n - 55)
  else none

/-- The digits of a number that must not pass 255, with the value read so far. -/
def hexDigits (value : Nat) : List Char → Except ParseIntError Nat
  | [] => .ok value
  | c :: rest =>
    match hexDigit c with
    | none => .error .invalidDigit
    | some digit =>
      let value := value * 16 + digit
      if value ≤ 255 then hexDigits value rest else .error .posOverflow

/-- A number of eight bits. A sign alone is none, and a minus sign is never part of one. -/
def u8FromHex (text : List Char) : Except ParseIntError UInt8 :=
  if text = [] then .error .empty
  else if text = ['+'] ∨ text = ['-'] then .error .invalidDigit
  else
    let digits := if text.head? = some '+' then text.tail else text
    UInt8.ofNat <$> hexDigits 0 digits

/-- What may be the first of a pair for the library: a plus sign counts as nothing. -/
def leadDigit (c : Char) : Option Nat := if c = '+' then some 0 else hexDigit c

/-- The bytes of pairs of digits, the first of each pair read with `lead`. -/
def readPairs (lead : Char → Option Nat) : List Char → Option (List UInt8)
  | [] => some []
  | [_] => none
  | a :: b :: rest => do
    let high ← lead a
    let low ← hexDigit b
    let bytes ← readPairs lead rest
    pure (UInt8.ofNat (high * 16 + low) :: bytes)

/-- A byte as its digits. -/
def hexPair (byte : UInt8) : List Char :=
  [Nat.digitChar (byte.toNat / 16), Nat.digitChar (byte.toNat % 16)]

/-- The sum of bytes in eight bits. -/
def byteSum : List UInt8 → UInt8
  | [] => 0
  | byte :: rest => byte + byteSum rest

variable {lead : Char → Option Nat} {a b c c' : Char} {v high low : Nat} {front back rest : List Char}
  {bytes bytes' : List UInt8}

theorem hexDigit_eq_some (h : hexDigit c = some v) :
    c.toNat < 128 ∧ v < 16 ∧ (48 ≤ c.toNat ∧ c.toNat ≤ 57 ∧ c.toNat = v + 48 ∨
      97 ≤ c.toNat ∧ c.toNat ≤ 102 ∧ c.toNat = v + 87 ∨
      65 ≤ c.toNat ∧ c.toNat ≤ 70 ∧ c.toNat = v + 55) := by
  simp only [hexDigit] at h
  split at h
  · cases h
    omega
  · split at h
    · cases h
      omega
    · split at h
      · cases h
        omega
      · cases h

theorem hexDigit_ne (h : hexDigit c = some v) (hc' : hexDigit c' = none) : c ≠ c' := by
  rintro rfl
  rw [hc'] at h
  cases h

theorem hexDigit_not_isWhitespace (h : hexDigit c = some v) : ¬isWhitespace c := by
  obtain ⟨-, -, hrange⟩ := hexDigit_eq_some h
  simp only [isWhitespace, Bool.or_eq_true, Bool.and_eq_true, decide_eq_true_iff, beq_iff_eq]
  omega

theorem utf8Size_of_hexDigit (h : hexDigit c = some v) : c.utf8Size = 1 := by
  have hlt : c.val.toNat < 128 := (hexDigit_eq_some h).1
  rw [Char.utf8Size, if_pos (UInt32.le_iff_toNat_le.mpr (Nat.le_of_lt_succ hlt))]

theorem hexDigit_eq_zero (h : hexDigit c = some 0) : c = '0' := by
  obtain ⟨-, -, hrange⟩ := hexDigit_eq_some h
  exact Char.toNat_inj.mp (show c.toNat = 48 by omega)

theorem hexDigit_digitChar : ∀ n < 16, hexDigit (Nat.digitChar n) = some n := by decide

theorem leadDigit_lt (h : leadDigit c = some v) : v < 16 := by
  unfold leadDigit at h
  split at h
  · cases h
    decide
  · exact (hexDigit_eq_some h).2.1

theorem leadDigit_of_hexDigit (h : hexDigit c = some v) : leadDigit c = some v := by
  rw [leadDigit, if_neg (hexDigit_ne h rfl), h]

theorem utf8Size_of_leadDigit (h : leadDigit c = some v) : c.utf8Size = 1 := by
  unfold leadDigit at h
  split at h
  · rename_i hplus
    rw [hplus]
    rfl
  · exact utf8Size_of_hexDigit h

/-- A byte has one pair of halves. -/
theorem byte_halves {high' low' : Nat} (hlow : low < 16) (hlow' : low' < 16) (hhigh : high < 16)
    (hhigh' : high' < 16)
    (h : UInt8.ofNat (high * 16 + low) = UInt8.ofNat (high' * 16 + low')) :
    high = high' ∧ low = low' := by
  have hnat := congrArg UInt8.toNat h
  rw [UInt8.toNat_ofNat', UInt8.toNat_ofNat'] at hnat
  omega

/-- The library reads a pair as `readPairs` does. -/
theorem u8FromHex_pair (a b : Char) :
    u8FromHex [a, b] = match leadDigit a, hexDigit b with
      | some high, some low => .ok (UInt8.ofNat (high * 16 + low))
      | _, _ => .error .invalidDigit := by
  have hpair : ¬([a, b] = ['+'] ∨ [a, b] = ['-']) := by simp
  rw [u8FromHex, if_neg (List.cons_ne_nil a [b]), if_neg hpair]
  cases hb : hexDigit b with
  | none =>
    by_cases hplus : a = '+'
    · simp [hplus, hexDigits, hb]
    · cases ha : hexDigit a with
      | none => simp [hplus, hexDigits, ha]
      | some high =>
        have := (hexDigit_eq_some ha).2.1
        simp [hplus, hexDigits, ha, hb, show high ≤ 255 by omega]
  | some low =>
    have := (hexDigit_eq_some hb).2.1
    by_cases hplus : a = '+'
    · simp [hplus, hexDigits, hb, leadDigit, show low ≤ 255 by omega]
    · cases ha : hexDigit a with
      | none => simp [hplus, hexDigits, ha, leadDigit]
      | some high =>
        have := (hexDigit_eq_some ha).2.1
        simp [hplus, hexDigits, ha, hb, leadDigit, show high ≤ 255 by omega,
          show high * 16 + low ≤ 255 by omega]

theorem readPairs_cons_cons : readPairs lead (a :: b :: rest) = some bytes ↔
    ∃ high low bytes', lead a = some high ∧ hexDigit b = some low ∧
      readPairs lead rest = some bytes' ∧ bytes = UInt8.ofNat (high * 16 + low) :: bytes' := by
  rw [readPairs]
  simp only [Option.bind_eq_bind, Option.bind_eq_some_iff, Option.pure_def, Option.some.injEq]
  constructor
  · rintro ⟨high, hhigh, low, hlow, bytes', hrest, rfl⟩
    exact ⟨high, low, bytes', hhigh, hlow, hrest, rfl⟩
  · rintro ⟨high, low, bytes', hhigh, hlow, hrest, rfl⟩
    exact ⟨high, hhigh, low, hlow, bytes', hrest, rfl⟩

theorem readPairs_length (h : readPairs lead front = some bytes) :
    front.length = 2 * bytes.length := by
  induction front using readPairs.induct generalizing bytes with
  | case1 =>
    cases h
    rfl
  | case2 => cases h
  | case3 a b rest ih =>
    obtain ⟨high, low, bytes', -, -, hrest, rfl⟩ := readPairs_cons_cons.mp h
    rw [List.length_cons, List.length_cons, ih hrest, List.length_cons]
    omega

/-- Pairs are digits. -/
theorem hexDigit_of_readPairs (h : readPairs hexDigit front = some bytes) :
    ∀ c ∈ front, ∃ v, hexDigit c = some v := by
  induction front using readPairs.induct generalizing bytes with
  | case1 => exact List.forall_mem_nil _
  | case2 => cases h
  | case3 a b rest ih =>
    obtain ⟨high, low, bytes', ha, hb, hrest, rfl⟩ := readPairs_cons_cons.mp h
    exact List.forall_mem_cons.mpr ⟨⟨high, ha⟩, List.forall_mem_cons.mpr ⟨⟨low, hb⟩, ih hrest⟩⟩

theorem readPairs_mono {lead' : Char → Option Nat}
    (hlead : ∀ c ∈ front, ∀ v, lead c = some v → lead' c = some v)
    (h : readPairs lead front = some bytes) : readPairs lead' front = some bytes := by
  induction front using readPairs.induct generalizing bytes with
  | case1 => exact h
  | case2 => cases h
  | case3 a b rest ih =>
    obtain ⟨high, low, bytes', ha, hb, hrest, rfl⟩ := readPairs_cons_cons.mp h
    obtain ⟨hfirst, htail⟩ := List.forall_mem_cons.mp hlead
    exact readPairs_cons_cons.mpr ⟨high, low, bytes', hfirst high ha, hb,
      ih (fun c hc => htail c (List.mem_cons_of_mem b hc)) hrest, rfl⟩

/-- Without a plus sign the library reads what digits say. -/
theorem readPairs_leadDigit_iff (h : '+' ∉ front) :
    readPairs leadDigit front = some bytes ↔ readPairs hexDigit front = some bytes := by
  refine ⟨readPairs_mono fun c hc v hv => ?_, readPairs_mono fun _ _ _ => leadDigit_of_hexDigit⟩
  rwa [leadDigit, if_neg] at hv
  rintro rfl
  exact h hc

/-- Whole pairs in front are read before the rest. -/
theorem readPairs_append (heven : front.length % 2 = 0) :
    readPairs lead (front ++ back) = some bytes ↔
      ∃ bs bs', readPairs lead front = some bs ∧ readPairs lead back = some bs' ∧
        bytes = bs ++ bs' := by
  induction front using readPairs.induct generalizing bytes with
  | case1 =>
    constructor
    · intro h
      exact ⟨[], bytes, rfl, h, rfl⟩
    · rintro ⟨bs, bs', hfront, hback, rfl⟩
      cases hfront
      exact hback
  | case2 => simp at heven
  | case3 a b rest ih =>
    have heven' : rest.length % 2 = 0 := by
      rw [List.length_cons, List.length_cons] at heven
      omega
    rw [List.cons_append, List.cons_append, readPairs_cons_cons]
    constructor
    · rintro ⟨high, low, bytes', ha, hb, hrest, rfl⟩
      obtain ⟨bs, bs', hfront, hback, rfl⟩ := (ih heven').mp hrest
      exact ⟨_ :: bs, bs', readPairs_cons_cons.mpr ⟨high, low, bs, ha, hb, hfront, rfl⟩, hback, rfl⟩
    · rintro ⟨bs, bs', hfront, hback, rfl⟩
      obtain ⟨high, low, bytes', ha, hb, hrest, rfl⟩ := readPairs_cons_cons.mp hfront
      exact ⟨high, low, bytes' ++ bs', ha, hb, (ih heven').mpr ⟨bytes', bs', hrest, hback, rfl⟩, rfl⟩

/-- Every byte string has its digits. -/
theorem readPairs_hexPair (bytes : List UInt8) :
    readPairs hexDigit (bytes.flatMap hexPair) = some bytes := by
  induction bytes with
  | nil => rfl
  | cons byte bytes ih =>
    have := byte.toNat_lt
    rw [List.flatMap_cons, hexPair]
    refine readPairs_cons_cons.mpr ⟨_, _, bytes, hexDigit_digitChar _ (by omega),
      hexDigit_digitChar _ (by omega), ih, ?_⟩
    rw [Nat.div_add_mod' byte.toNat 16, UInt8.ofNat_toNat]

theorem byteSum_append : byteSum (bytes ++ bytes') = byteSum bytes + byteSum bytes' := by
  induction bytes with
  | nil => rw [List.nil_append, byteSum, UInt8.zero_add]
  | cons byte bytes ih => rw [List.cons_append, byteSum, byteSum, ih, UInt8.add_assoc]

theorem byteSum_singleton (byte : UInt8) : byteSum [byte] = byte := by
  rw [byteSum, byteSum, UInt8.add_zero]

/-- The bytes added up from the first on. -/
theorem foldl_add_eq (start : UInt8) : bytes.foldl (· + ·) start = start + byteSum bytes := by
  induction bytes generalizing start with
  | nil => rw [List.foldl_nil, byteSum, UInt8.add_zero]
  | cons byte bytes ih => rw [List.foldl_cons, ih, byteSum, UInt8.add_assoc]

/-- One character changed changes one byte, so the sum tells whether it is another digit. -/
theorem readPairs_replace (hlead : ∀ {c v}, lead c = some v → v < 16)
    (h : readPairs lead (front ++ c :: back) = some bytes)
    (h' : readPairs lead (front ++ c' :: back) = some bytes') (hsum : byteSum bytes = byteSum bytes') :
    lead c = lead c' ∨ hexDigit c = hexDigit c' := by
  induction front using readPairs.induct generalizing bytes bytes' with
  | case1 =>
    cases back with
    | nil => cases h
    | cons b rest =>
      obtain ⟨high, low, bs, ha, hb, hrest, rfl⟩ := readPairs_cons_cons.mp h
      obtain ⟨high', low', bs', ha', hb', hrest', rfl⟩ := readPairs_cons_cons.mp h'
      cases hrest.symm.trans hrest'
      cases hb.symm.trans hb'
      rw [byteSum, byteSum, UInt8.add_left_inj] at hsum
      have hlow := (hexDigit_eq_some hb).2.1
      obtain ⟨rfl, -⟩ := byte_halves hlow hlow (hlead ha) (hlead ha') hsum
      exact .inl (ha.trans ha'.symm)
  | case2 a =>
    obtain ⟨high, low, bs, ha, hb, hrest, rfl⟩ := readPairs_cons_cons.mp h
    obtain ⟨high', low', bs', ha', hb', hrest', rfl⟩ := readPairs_cons_cons.mp h'
    cases hrest.symm.trans hrest'
    cases ha.symm.trans ha'
    rw [byteSum, byteSum, UInt8.add_left_inj] at hsum
    obtain ⟨-, rfl⟩ := byte_halves (hexDigit_eq_some hb).2.1 (hexDigit_eq_some hb').2.1 (hlead ha)
      (hlead ha') hsum
    exact .inr (hb.trans hb'.symm)
  | case3 a b rest ih =>
    obtain ⟨high, low, bs, ha, hb, hrest, rfl⟩ := readPairs_cons_cons.mp h
    obtain ⟨high', low', bs', ha', hb', hrest', rfl⟩ := readPairs_cons_cons.mp h'
    cases ha.symm.trans ha'
    cases hb.symm.trans hb'
    rw [byteSum, byteSum, UInt8.add_right_inj] at hsum
    exact ih hrest hrest' hsum

end Ugpibd.Library
