import Mathlib
import Ugpibd.Library.BigEndian

/-! Record marking on the core channel: a call arrives as fragments, each with a header word whose
top bit marks the last one. -/
namespace Ugpibd.Vxi11
open Library

/-- How a stream ends after its last byte: the peer has closed it, or the socket fails. -/
inductive StreamEnd
  | eof
  | ioError
  deriving DecidableEq, Repr

/-- What a reader will still get from its peer. -/
structure Stream where
  bytes : List UInt8
  ending : StreamEnd
  deriving DecidableEq, Repr

/-- The error kinds reading a record tells apart. -/
inductive ReadError
  | unexpectedEof
  | invalidData
  | other
  deriving DecidableEq, Repr

def StreamEnd.error : StreamEnd → ReadError
  | .eof => .unexpectedEof
  | .ioError => .other

/-- Exactly `n` bytes, or the error the stream ends with. -/
def Stream.readExact (stream : Stream) (n : Nat) : Except ReadError (List UInt8 × Stream) :=
  if n ≤ stream.bytes.length then
    .ok (stream.bytes.take n, { stream with bytes := stream.bytes.drop n })
  else .error stream.ending.error

theorem Stream.readExact_length {stream rest : Stream} {n : Nat} {bytes : List UInt8}
    (h : stream.readExact n = .ok (bytes, rest)) :
    rest.bytes.length + n = stream.bytes.length := by
  unfold readExact at h
  split at h
  · obtain ⟨rfl, rfl⟩ := Prod.mk.inj (Except.ok.inj h)
    rw [List.length_drop]
    omega
  · cases h

/-- The fragment loop, with what it has read of the record so far. -/
def readFragments (maxLen : Nat) (record : List UInt8) (stream : Stream) :
    Except ReadError (Option (List UInt8 × Stream)) :=
  match _hheader : stream.readExact 4 with
  | .error .unexpectedEof => if record = [] then .ok none else .error .unexpectedEof
  | .error e => .error e
  | .ok (header, body) =>
    let word := fromBeBytes header
    let len := word % 2 ^ 31
    if maxLen < record.length + len then .error .invalidData
    else match _hbody : body.readExact len with
      | .error e => .error e
      | .ok (fragment, rest) =>
        if 2 ^ 31 ≤ word then .ok (some (record ++ fragment, rest))
        else readFragments maxLen (record ++ fragment) rest
termination_by stream.bytes.length
decreasing_by
  have := Stream.readExact_length _hheader
  have := Stream.readExact_length _hbody
  omega

/-- One record and what follows it; nothing when the peer hung up before one began. -/
def readRecord (maxLen : Nat) (stream : Stream) :
    Except ReadError (Option (List UInt8 × Stream)) :=
  readFragments maxLen [] stream

/-- An end of file counts as a hang-up between records also inside the first header. -/
theorem readRecord_eof {maxLen : Nat} {stream : Stream} (hlen : stream.bytes.length < 4)
    (heof : stream.ending = .eof) : readRecord maxLen stream = .ok none := by
  have hread : stream.readExact 4 = .error .unexpectedEof := by
    rw [Stream.readExact, if_neg (by omega), heof]
    rfl
  unfold readRecord readFragments
  split
  · rfl
  · rename_i e hne he
    rw [hread] at he
    cases he
    exact absurd rfl hne
  · rename_i he
    rw [hread] at he
    cases he

end Ugpibd.Vxi11
