import Mathlib
import Ugpibd.Library.BigEndian
import Ugpibd.Library.Codec

/-! XDR as far as the RPC messages use it: words, and byte strings with a length word and padding
to the next word. -/
namespace Ugpibd.Vxi11
open Library

inductive XdrError
  | truncated
  | tooLong (len max : UInt32)
  | badBool (v : UInt32)
  deriving DecidableEq, Repr

namespace Xdr

/-- Bytes of padding that follow so many bytes of data. -/
def padOf (len : Nat) : Nat := (4 - len % 4) % 4

def putU32 (v : UInt32) : List UInt8 := toBeBytes 4 v.toNat
def putI32 (v : Int32) : List UInt8 := putU32 v.toUInt32
def putBool (v : Bool) : List UInt8 := putU32 v.toUInt32

def putOpaque (data : List UInt8) : List UInt8 :=
  [putU32 (UInt32.ofNat data.length), data, List.replicate (padOf data.length) 0].flatten

end Xdr

/-- The strict reader over one encoded buffer; its state is what it has not consumed. -/
abbrev Cursor := Reader XdrError

namespace Cursor

def take (n : Nat) : Cursor (List UInt8) := fun data =>
  if n ≤ data.length then .ok (data.take n, data.drop n) else .error .truncated

def u32 : Cursor UInt32 := do return UInt32.ofNat (fromBeBytes (← take 4))

def i32 : Cursor Int32 := do return (← u32).toInt32

def bool : Cursor Bool := do
  let v ← u32
  if v = 0 then return false
  else if v = 1 then return true
  else throw (.badBool v)

/-- A byte string, refused above `max`. Its padding is consumed whatever it is. -/
def byteString (max : UInt32) : Cursor (List UInt8) := do
  let len ← u32
  if max < len then throw (.tooLong len max)
  let data ← take len.toNat
  let _ ← take (Xdr.padOf len.toNat)
  return data

/-- What a message is decoded to, the bytes after it being left to the owner of the record. -/
def decode {α : Type} (cursor : Cursor α) (data : List UInt8) : Except XdrError α :=
  (cursor.run data).map Prod.fst

open Xdr

theorem take_reads {n : Nat} {data : List UInt8} (h : data.length = n) :
    Reads .truncated (take n) data data where
  whole := by
    intro rest
    subst h
    simp [take, StateT.run]
  cut := by
    rintro front ⟨rest, rfl⟩ hne
    have hrest : rest ≠ [] := by
      rintro rfl
      exact hne (List.append_nil _).symm
    have hpos := List.length_pos_of_ne_nil hrest
    rw [List.length_append] at h
    exact if_neg (by omega)

theorem take_consumes (n : Nat) : Consumes (take n) n := by
  intro data bytes rest h
  simp only [take, StateT.run] at h
  split at h
  · obtain ⟨-, rfl⟩ := Prod.mk.inj (Except.ok.inj h)
    rw [List.length_drop]
    omega
  · cases h

theorem u32_consumes : Consumes u32 4 :=
  (take_consumes 4).bind fun _ => consumes_pure _

theorem bool_consumes : Consumes bool 4 := by
  change Consumes bool (4 + 0)
  refine u32_consumes.bind fun v => ?_
  split
  · exact consumes_pure _
  · split
    · exact consumes_pure _
    · intro data b rest h
      cases h

theorem u32_reads (v : UInt32) : Reads .truncated u32 (putU32 v) v := by
  have hread := (take_reads (toBeBytes_length 4 v.toNat)).map fun bytes =>
    UInt32.ofNat (fromBeBytes bytes)
  have hvalue : UInt32.ofNat (fromBeBytes (toBeBytes 4 v.toNat)) = v := by
    rw [fromBeBytes_toBeBytes, Nat.mod_eq_of_lt (show v.toNat < 256 ^ 4 from v.toNat_lt), UInt32.ofNat_toNat]
  rwa [hvalue] at hread

theorem i32_reads (v : Int32) : Reads .truncated i32 (putI32 v) v :=
  (u32_reads v.toUInt32).map UInt32.toInt32

theorem bool_reads (v : Bool) : Reads .truncated bool (putBool v) v := by
  rw [putBool, ← List.append_nil (putU32 _)]
  refine (u32_reads v.toUInt32).bind ?_
  cases v with
  | false => exact reads_pure _ _
  | true => exact reads_pure _ _

/-- A byte string within its cap is read with its padding, whatever that is. -/
theorem byteString_reads_padded {max : UInt32} {data padding : List UInt8}
    (hmax : data.length ≤ max.toNat) (hpadding : padding.length = padOf data.length) :
    Reads .truncated (byteString max)
      (putU32 (UInt32.ofNat data.length) ++ (data ++ (padding ++ []))) data := by
  have hlen : (UInt32.ofNat data.length).toNat = data.length :=
    UInt32.toNat_ofNat_of_lt' (hmax.trans_lt max.toNat_lt)
  have hcap : ¬max < UInt32.ofNat data.length := by
    rw [UInt32.lt_iff_toNat_lt, hlen]
    omega
  refine (u32_reads _).bind ?_
  rw [if_neg hcap]
  refine (take_reads hlen.symm).bind ?_
  exact (take_reads (by rw [hpadding, hlen])).bind (reads_pure _ _)

theorem byteString_reads {max : UInt32} {data : List UInt8} (hmax : data.length ≤ max.toNat) :
    Reads .truncated (byteString max) (putOpaque data) data :=
  byteString_reads_padded hmax List.length_replicate

/-- A byte string over its cap is refused with both numbers. -/
theorem byteString_refuses {max : UInt32} {data : List UInt8} (hmax : max.toNat < data.length)
    (hfits : data.length < 2 ^ 32) :
    Refuses (byteString max) (putOpaque data) (.tooLong (UInt32.ofNat data.length) max) := by
  have hcap : max < UInt32.ofNat data.length := by
    rw [UInt32.lt_iff_toNat_lt, UInt32.toNat_ofNat_of_lt' hfits]
    exact hmax
  refine (u32_reads _).bind_refuses ?_
  rw [if_pos hcap]
  intro rest
  rfl

end Cursor
end Ugpibd.Vxi11
