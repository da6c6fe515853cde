import Mathlib.Data.List.Induction
import Mathlib.Tactic.Ring

/-! Unsigned integers as big-endian bytes. -/
namespace Ugpibd.Library

def fromBeBytes (bytes : List UInt8) : Nat :=
  bytes.foldl (fun word byte => word * 256 + byte.toNat) 0

/-- The low `width` bytes of a number, most significant first. -/
def toBeBytes : Nat → Nat → List UInt8
  | 0, _ => []
  | width + 1, n => toBeBytes width (n / 256) ++ [UInt8.ofNat n]

@[simp] theorem toBeBytes_length (width n : Nat) : (toBeBytes width n).length = width := by
  induction width generalizing n with
  | zero => rfl
  | succ width ih => rw [toBeBytes, List.length_append, ih, List.length_singleton]

theorem fromBeBytes_concat (bytes : List UInt8) (byte : UInt8) :
    fromBeBytes (bytes ++ [byte]) = fromBeBytes bytes * 256 + byte.toNat := by
  simp [fromBeBytes]

theorem fromBeBytes_toBeBytes (width n : Nat) :
    fromBeBytes (toBeBytes width n) = n % 256 ^ width := by
  induction width generalizing n with
  | zero => rw [pow_zero, Nat.mod_one]; rfl
  | succ width ih =>
    rw [toBeBytes, fromBeBytes_concat, ih, UInt8.toNat_ofNat', pow_succ' 256 width, Nat.mod_mul]
    omega

/-- Bytes are the word they make, written at their own width. -/
theorem toBeBytes_fromBeBytes (bytes : List UInt8) :
    toBeBytes bytes.length (fromBeBytes bytes) = bytes := by
  induction bytes using List.reverseRecOn with
  | nil => rfl
  | append_singleton bytes byte ih =>
    have hhigh : (fromBeBytes bytes * 256 + byte.toNat) / 256 = fromBeBytes bytes := by
      have := byte.toNat_lt
      omega
    have hlow : UInt8.ofNat (fromBeBytes bytes * 256 + byte.toNat) = byte := by
      refine UInt8.toNat_inj.mp ?_
      have := byte.toNat_lt
      rw [UInt8.toNat_ofNat']
      omega
    rw [List.length_append, List.length_singleton, fromBeBytes_concat, toBeBytes, hhigh, hlow, ih]

theorem fromBeBytes_lt (bytes : List UInt8) : fromBeBytes bytes < 256 ^ bytes.length := by
  induction bytes using List.reverseRecOn with
  | nil => exact Nat.one_pos
  | append_singleton bytes byte ih =>
    have := byte.toNat_lt
    rw [fromBeBytes_concat, List.length_append, List.length_singleton, pow_succ]
    omega

/-- Only zero bytes make a zero word. -/
theorem fromBeBytes_eq_zero {bytes : List UInt8} (h : fromBeBytes bytes = 0) :
    bytes = List.replicate bytes.length 0 := by
  induction bytes using List.reverseRecOn with
  | nil => rfl
  | append_singleton bytes byte ih =>
    rw [fromBeBytes_concat] at h
    have hbyte : byte = 0 := UInt8.toNat_inj.mp (by rw [UInt8.toNat_zero]; omega)
    rw [hbyte, List.length_append, List.length_singleton, List.replicate_succ']
    exact congrArg (· ++ [0]) (ih (by omega))

/-- Two bytes make a word of 16 bits. -/
theorem uint16_bytes (word : UInt16) :
    (word >>> 8).toUInt8.toUInt16 <<< 8 ||| word.toUInt8.toUInt16 = word := by
  have hlt : word.toNat < 65536 := word.toNat_lt
  have hlow : word.toNat % 256 < 2 ^ 8 := Nat.mod_lt _ (by decide)
  have hhigh : word.toNat / 256 % 256 = word.toNat / 256 := by omega
  have hshift : (word.toNat / 256) <<< 8 % 65536 = (word.toNat / 256) <<< 8 :=
    Nat.mod_eq_of_lt (by rw [Nat.shiftLeft_eq]; omega)
  refine UInt16.toNat_inj.mp ?_
  simp only [UInt16.toNat_or, UInt16.toNat_shiftLeft, UInt16.toNat_shiftRight,
    UInt8.toNat_toUInt16, UInt16.toNat_toUInt8, UInt16.reduceToNat, Nat.reduceMod,
    Nat.shiftRight_eq_div_pow, Nat.reducePow, hhigh, hshift]
  rw [← Nat.shiftLeft_add_eq_or_of_lt hlow, Nat.shiftLeft_eq]
  omega

end Ugpibd.Library
