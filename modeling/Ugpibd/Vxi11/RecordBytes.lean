import Ugpibd.Vxi11.Records

/-! How much of a stream is read for one record. The limit on a record is on its body; the headers of
fragments without one do not count towards it. -/
namespace Ugpibd.Vxi11
open Library

/-- What a reader has taken from its peer: bytes, and empty fragments that do not end the record. -/
structure Taken where
  bytes : Nat
  empty : Nat := 0
  deriving DecidableEq, Repr

/-- What the fragment loop takes until it returns. Where the stream ends too early it has taken what
there was. -/
def takeFragments (maxLen : Nat) (record : List UInt8) (stream : Stream) : Taken :=
  match _hheader : stream.readExact 4 with
  | .error _ => { bytes := stream.bytes.length }
  | .ok (header, body) =>
    let word := fromBeBytes header
    let len := word % 2 ^ 31
    if maxLen < record.length + len then { bytes := 4 }
    else match _hbody : body.readExact len with
      | .error _ => { bytes := stream.bytes.length }
      | .ok (fragment, rest) =>
        if 2 ^ 31 ≤ word then { bytes := 4 + len }
        else
          let after := takeFragments maxLen (record ++ fragment) rest
          { bytes := 4 + len + after.bytes, empty := (if len = 0 then 1 else 0) + after.empty }
termination_by stream.bytes.length
decreasing_by
  have := Stream.readExact_length _hheader
  have := Stream.readExact_length _hbody
  omega

def takeRecord (maxLen : Nat) (stream : Stream) : Taken := takeFragments maxLen [] stream

section
variable {maxLen : Nat} {record : List UInt8} {stream : Stream}

/-- Every fragment with a body brings the record nearer to its limit. -/
theorem takeFragments_bytes_le (hrecord : record.length ≤ maxLen) :
    (takeFragments maxLen record stream).bytes ≤
      5 * (maxLen - record.length) + 4 + 4 * (takeFragments maxLen record stream).empty := by
  fun_induction takeFragments maxLen record stream with
  | case1 record stream _ hheader =>
    have := Stream.readExact_error hheader
    dsimp only
    omega
  | case2 => dsimp only; omega
  | case3 record stream header body hheader word len hmax _ hbody =>
    have := Stream.readExact_length hheader
    have := Stream.readExact_error hbody
    dsimp only
    omega
  | case4 => dsimp only; omega
  | case5 record stream header body hheader word len hmax fragment rest hbody hlast after ih =>
    obtain ⟨-, hlen⟩ := Stream.readExact_ok hbody
    rw [List.length_append, hlen] at ih
    have hafter : after.bytes ≤ 5 * (maxLen - (record.length + len)) + 4 + 4 * after.empty :=
      ih (by omega)
    dsimp only
    split <;> omega

/-- A record that is returned is all that was taken. -/
theorem takeFragments_rest {result : List UInt8} {rest : Stream}
    (h : readFragments maxLen record stream = .ok (some (result, rest))) :
    (takeFragments maxLen record stream).bytes + rest.bytes.length = stream.bytes.length := by
  fun_induction takeFragments maxLen record stream with
  | case1 record stream e hheader =>
    rw [readFragments_short (Stream.readExact_error hheader)] at h
    split at h <;> cases h
  | case2 record stream header body hheader word len hmax =>
    rw [readFragments_header hheader, if_pos hmax] at h
    cases h
  | case3 record stream header body hheader word len hmax e hbody =>
    rw [readFragments_header hheader, if_neg hmax, hbody] at h
    cases h
  | case4 record stream header body hheader word len hmax fragment after hbody hlast =>
    rw [readFragments_header hheader, if_neg hmax, hbody] at h
    dsimp only at h
    rw [if_pos (show 2 ^ 31 ≤ fromBeBytes header from hlast)] at h
    cases h
    have := Stream.readExact_length hheader
    have := Stream.readExact_length hbody
    dsimp only
    omega
  | case5 record stream header body hheader word len hmax fragment after hbody hlast taken ih =>
    rw [readFragments_header hheader, if_neg hmax, hbody] at h
    dsimp only at h
    rw [if_neg (show ¬2 ^ 31 ≤ fromBeBytes header from hlast)] at h
    have hrest : taken.bytes + rest.bytes.length = after.bytes.length := ih h
    have := Stream.readExact_length hheader
    have := Stream.readExact_length hbody
    dsimp only
    omega

/-- The loop at a whole header. -/
theorem takeFragments_header {header : List UInt8} {after : Stream}
    (h : stream.readExact 4 = .ok (header, after)) :
    takeFragments maxLen record stream =
      if maxLen < record.length + fromBeBytes header % 2 ^ 31 then { bytes := 4 }
      else match after.readExact (fromBeBytes header % 2 ^ 31) with
        | .error _ => { bytes := stream.bytes.length }
        | .ok (fragment, rest) =>
          if 2 ^ 31 ≤ fromBeBytes header then { bytes := 4 + fromBeBytes header % 2 ^ 31 }
          else {
            bytes := 4 + fromBeBytes header % 2 ^ 31 +
              (takeFragments maxLen (record ++ fragment) rest).bytes
            empty := (if fromBeBytes header % 2 ^ 31 = 0 then 1 else 0) +
              (takeFragments maxLen (record ++ fragment) rest).empty } := by
  conv => lhs; unfold takeFragments
  split
  · rename_i he
    rw [h] at he
    cases he
  · rename_i he
    rw [h] at he
    cases he
    dsimp only
    refine if_congr Iff.rfl rfl ?_
    split <;> rename_i hbody <;> rw [hbody]

/-- An empty fragment leaves the loop where it was. -/
theorem takeFragments_empty (hrecord : record.length ≤ maxLen) (bytes : List UInt8)
    (ending : StreamEnd) :
    (takeFragments maxLen record ⟨fragment false [] ++ bytes, ending⟩).bytes =
      4 + (takeFragments maxLen record ⟨bytes, ending⟩).bytes := by
  have hword : fromBeBytes (fragment false []) = 0 := by decide
  have hnone : (Stream.mk bytes ending).readExact 0 = .ok ([], ⟨bytes, ending⟩) :=
    Stream.readExact_append (List.length_nil (α := UInt8))
  rw [takeFragments_header (Stream.readExact_append rfl), hword, Nat.zero_mod, hnone,
    if_neg (by omega)]
  simp

end

/-- Whatever the limit, a peer can send empty fragments until so many bytes have been read. -/
theorem exists_takeRecord_bytes (maxLen n : Nat) :
    ∃ stream, 4 * n ≤ (takeRecord maxLen stream).bytes := by
  induction n with
  | zero => exact ⟨⟨[], .eof⟩, by omega⟩
  | succ n ih =>
    obtain ⟨⟨bytes, ending⟩, h⟩ := ih
    refine ⟨⟨fragment false [] ++ bytes, ending⟩, ?_⟩
    have hstep := @takeFragments_empty maxLen [] (Nat.zero_le maxLen) bytes ending
    rw [takeRecord] at h ⊢
    omega

end Ugpibd.Vxi11
