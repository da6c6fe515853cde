import Mathlib.Data.List.DropRight
import Mathlib.Data.List.Induction

/-! Texts as a program's standard library takes them apart: surrounding blanks, the last piece after a
separator, and decimal numbers of eight bits. -/
namespace Ugpibd.Library

/-- The characters Unicode calls white space. -/
def isWhitespace (c : Char) : Bool :=
  let n := c.toNat
  (9 ≤ n && n ≤ 13) || n == 0x20 || n == 0x85 || n == 0xA0 || n == 0x1680 ||
    (0x2000 ≤ n && n ≤ 0x200A) || n == 0x2028 || n == 0x2029 || n == 0x202F || n == 0x205F ||
    n == 0x3000

def trim (text : List Char) : List Char := (text.dropWhile isWhitespace).rdropWhile isWhitespace

def toAsciiLowercase (text : List Char) : List Char := text.map Char.toLower

/-- The digits of a number that must not pass 255, with the value read so far. -/
def parseDigits (value : Nat) : List Char → Option Nat
  | [] => some value
  | c :: rest =>
    if c.isDigit then
      let value := value * 10 + (c.toNat - 48)
      if value ≤ 255 then parseDigits value rest else none
    else none

/-- A number of eight bits in decimal: a plus sign may stand before it, and zeros. -/
def parseU8 (text : List Char) : Option UInt8 :=
  let digits := if text.head? = some '+' then text.tail else text
  if digits = [] then none else (parseDigits 0 digits).map UInt8.ofNat

theorem parseDigits_isDigit {text : List Char} {value result : Nat}
    (h : parseDigits value text = some result) : ∀ c ∈ text, c.isDigit = true := by
  induction text generalizing value with
  | nil => exact fun c hc => absurd hc List.not_mem_nil
  | cons c rest ih =>
    rw [parseDigits] at h
    split at h
    · rename_i hdigit
      dsimp only at h
      split at h
      · exact List.forall_mem_cons.mpr ⟨hdigit, ih h⟩
      · cases h
    · cases h

/-- A number is digits, perhaps after a plus sign, and is the number of its digits. -/
theorem parseU8_eq_some {text : List Char} {n : UInt8} (h : parseU8 text = some n) :
    ∃ digits, digits ≠ [] ∧ (∀ c ∈ digits, c.isDigit = true) ∧ parseU8 digits = some n ∧
      (text = digits ∨ text = '+' :: digits) := by
  have hshape : text = (if text.head? = some '+' then text.tail else text) ∨
      text = '+' :: if text.head? = some '+' then text.tail else text := by
    cases text with
    | nil => exact .inl rfl
    | cons c rest =>
      by_cases hplus : c = '+'
      · subst hplus
        exact .inr rfl
      · exact .inl (by simp [hplus])
  rw [parseU8] at h
  generalize (if text.head? = some '+' then text.tail else text) = digits at h hshape
  split at h
  · cases h
  · rename_i hne
    obtain ⟨value, hvalue, -⟩ := Option.map_eq_some_iff.mp h
    have hdigits : ∀ c ∈ digits, c.isDigit = true := parseDigits_isDigit hvalue
    refine ⟨digits, hne, hdigits, ?_, hshape⟩
    have hsign : digits.head? ≠ some '+' := by
      intro hhead
      have := hdigits '+' (List.mem_of_mem_head? hhead)
      simp at this
    rw [parseU8, if_neg hsign]
    simpa only [if_neg hne] using h

/-- A decimal numeral without a sign. Zeros may stand before it. -/
structure Numeral (text : List Char) (n : Nat) : Prop where
  nonempty : text ≠ []
  digits : ∀ c ∈ text, c.isDigit = true
  value : Nat.ofDigitChars 10 text 0 = n

theorem le_ofDigitChars (text : List Char) (value : Nat) :
    value ≤ Nat.ofDigitChars 10 text value := by
  induction text generalizing value with
  | nil => exact Nat.le_refl value
  | cons c rest ih =>
    rw [Nat.ofDigitChars_cons]
    exact Nat.le_trans (by omega) (ih _)

theorem parseDigits_eq_some_iff {text : List Char} {value result : Nat} (hvalue : value ≤ 255) :
    parseDigits value text = some result ↔
      (∀ c ∈ text, c.isDigit = true) ∧ Nat.ofDigitChars 10 text value = result ∧ result ≤ 255 := by
  induction text generalizing value with
  | nil =>
    simp only [parseDigits, Nat.ofDigitChars_nil, Option.some.injEq, List.not_mem_nil,
      IsEmpty.forall_iff, implies_true, true_and]
    exact ⟨fun h => ⟨h, h ▸ hvalue⟩, And.left⟩
  | cons c rest ih =>
    have hnext : value * 10 + (c.toNat - 48) = 10 * value + (c.toNat - '0'.toNat) := by
      rw [Nat.mul_comm]
      rfl
    rw [parseDigits, Nat.ofDigitChars_cons, List.forall_mem_cons, ← hnext]
    split
    · rename_i hdigit
      dsimp only
      split
      · rename_i hfits
        rw [ih hfits]
        simp only [hdigit, true_and]
      · rename_i hlarge
        -- the value only grows, so it stays above 255
        have hgrows := le_ofDigitChars rest (value * 10 + (c.toNat - 48))
        simp only [reduceCtorEq, false_iff]
        rintro ⟨-, rfl, hresult⟩
        omega
    · rename_i hdigit
      simp [hdigit]

theorem Numeral.unique {text : List Char} {n m : Nat} (hn : Numeral text n) (hm : Numeral text m) :
    n = m :=
  hn.value.symm.trans hm.value

theorem Numeral.not_mem {text : List Char} {n : Nat} (h : Numeral text n) {c : Char}
    (hc : c.isDigit = false) : c ∉ text := by
  intro hmem
  rw [h.digits c hmem] at hc
  cases hc

theorem Numeral.not_plus {digits : List Char} {n : Nat} (h : Numeral ('+' :: digits) n) : False := by
  cases h.digits '+' List.mem_cons_self

/-- A number as the parser takes it: a numeral, or one behind a plus sign. -/
def Denotes (text : List Char) (n : Nat) : Prop :=
  Numeral text n ∨ ∃ digits, text = '+' :: digits ∧ Numeral digits n

theorem Denotes.not_comma {text : List Char} {n : Nat} (h : Denotes text n) : ',' ∉ text := by
  rcases h with h | ⟨digits, rfl, h⟩
  · exact h.not_mem rfl
  · intro hmem
    rcases List.mem_cons.mp hmem with hcomma | hdigits
    · cases hcomma
    · exact h.not_mem rfl hdigits

theorem Denotes.unique {text : List Char} {n m : Nat} (hn : Denotes text n) (hm : Numeral text m) :
    n = m := by
  rcases hn with hn | ⟨digits, rfl, -⟩
  · exact hn.unique hm
  · exact hm.not_plus.elim

/-- The parser takes exactly the numbers that fit into eight bits. -/
theorem parseU8_eq_some_iff {text : List Char} {n : UInt8} :
    parseU8 text = some n ↔ Denotes text n.toNat := by
  have hread : ∀ digits : List Char,
      (if digits = [] then none else (parseDigits 0 digits).map UInt8.ofNat) = some n ↔
        Numeral digits n.toNat := by
    intro digits
    split
    · rename_i hempty
      constructor
      · intro h
        cases h
      · intro h
        exact absurd hempty h.nonempty
    · rename_i hne
      rw [Option.map_eq_some_iff]
      constructor
      · rintro ⟨value, hvalue, rfl⟩
        obtain ⟨hdigits, hsum, hfits⟩ := (parseDigits_eq_some_iff (Nat.zero_le 255)).mp hvalue
        exact ⟨hne, hdigits, by rw [hsum, UInt8.toNat_ofNat_of_lt' (Nat.lt_succ_of_le hfits)]⟩
      · intro h
        exact ⟨n.toNat, (parseDigits_eq_some_iff (Nat.zero_le 255)).mpr
          ⟨h.digits, h.value, Nat.le_of_lt_succ n.toNat_lt⟩, UInt8.ofNat_toNat⟩
  rw [parseU8, hread]
  constructor
  · intro h
    split at h
    · rename_i hplus
      exact .inr ⟨text.tail, (List.cons_head?_tail hplus).symm, h⟩
    · exact .inl h
  · rintro (h | ⟨digits, rfl, h⟩)
    · rw [if_neg]
      · exact h
      · intro hplus
        exact h.not_mem rfl (List.mem_of_mem_head? hplus)
    · exact h

section
variable {α : Type*} {p : α → Bool} {back : List α} {x : α}

/-- What follows the last symbol a predicate does not have. -/
theorem rtakeWhile_append_cons (front : List α) (hx : ¬p x) (hback : ∀ a ∈ back, p a) :
    (front ++ x :: back).rtakeWhile p = back := by
  induction back using List.reverseRecOn with
  | nil => exact List.rtakeWhile_concat_neg p front x hx
  | append_singleton back a ih =>
    rw [← List.cons_append, ← List.append_assoc,
      List.rtakeWhile_concat_pos p _ a (hback a (List.mem_append_right _ List.mem_cons_self)),
      ih fun b hb => hback b (List.mem_append_left _ hb)]

end

theorem isLower_eq (c : Char) : c.isLower = (decide ('a'.val ≤ c.val) && decide (c.val ≤ 'z'.val)) := rfl

/-- Only a small letter comes from folding another character. -/
theorem toLower_eq {c d : Char} (hd : d.isLower = false) (h : c.toLower = d) : c = d := by
  unfold Char.toLower at h
  split at h
  · rename_i hupper
    subst h
    simp [isLower_eq, UInt32.le_iff_toNat_le, UInt32.toNat_add] at hd hupper
    omega
  · exact h

/-- Folding leaves digits alone. -/
theorem toLower_of_isDigit {c : Char} (h : c.isDigit = true) : c.toLower = c := by
  unfold Char.toLower
  split
  · rename_i hupper
    simp [Char.isDigit, UInt32.le_iff_toNat_le] at h hupper
    omega
  · rfl

theorem map_toLower_eq {text folded : List Char} (hfolded : ∀ c ∈ folded, c.isLower = false)
    (h : text.map Char.toLower = folded) : text = folded := by
  induction text generalizing folded with
  | nil => exact h
  | cons c text ih =>
    subst h
    obtain ⟨hc, htext⟩ := List.forall_mem_cons.mp hfolded
    rw [List.map_cons, ← toLower_eq hc rfl, ← ih htext rfl]

end Ugpibd.Library
