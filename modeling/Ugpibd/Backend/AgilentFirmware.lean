import Ugpibd.Backend.ErrorText
import Ugpibd.Library.BigEndian
import Ugpibd.Library.Hex
import Ugpibd.Library.Utf8

/-! The firmware an adapter is loaded with is a text of Intel HEX records. What the reader takes is
exactly the lines of such records, except that a plus sign may stand for the first digit of a pair, and
it panics where a pair of bytes cuts a character. -/
namespace Ugpibd.Backend.Agilent
open Library

structure HexRecord where
  address : UInt16
  data : List UInt8
  deriving DecidableEq, Repr

inductive HexDecodeFailure
  | oddLength
  | parseInt (error : ParseIntError)
  deriving DecidableEq, Repr

inductive LineFailure
  | missingColon
  | invalidHex (cause : HexDecodeFailure)
  | tooShort
  | lengthMismatch
  | badChecksum (sum : UInt8)
  deriving DecidableEq, Repr

structure HexFailure where
  line : Nat
  cause : LineFailure
  deriving DecidableEq, Repr

def HexDecodeFailure.text : HexDecodeFailure → Text
  | .oddLength => fixed "odd hex length"
  | .parseInt .empty => fixed "cannot parse integer from empty string"
  | .parseInt .invalidDigit => fixed "invalid digit found in string"
  | .parseInt .posOverflow => fixed "number too large to fit in target type"

/-- What follows the number of the line. -/
def LineFailure.text : LineFailure → Text
  | .missingColon => fixed ": missing leading ':'"
  | .invalidHex cause => .context ": invalid hex" cause.text
  | .tooShort => fixed ": too short"
  | .lengthMismatch => fixed ": length mismatch"
  | .badChecksum sum => .cons ": bad checksum (got ".toList (hex sum) (fixed ")")

def HexFailure.text (failure : HexFailure) : Text :=
  .cons "line ".toList (decimal failure.line) failure.cause.text

/-- The byte at pair `i`. -/
def decodePair (s : List Char) (i : Nat) : MayPanic HexDecodeFailure UInt8 := do
  let start ← checkedMul i 2
  let stop ← checkedAdd start 2
  let digits ← sliceBytes s start stop
  reported ((u8FromHex digits).mapError .parseInt)

def hexDecode (s : List Char) : MayPanic HexDecodeFailure (List UInt8) := do
  if byteLen s % 2 ≠ 0 then throw (.error .oddLength)
  (List.range (byteLen s / 2)).mapM (decodePair s)

/-- What a record is to the reader, by its type. -/
inductive Found
  | data (record : HexRecord)
  | eof
  | skipped
  deriving DecidableEq, Repr

/-- The checks of one record, and what it is. -/
def checkRecord (bytes : List UInt8) : MayPanic LineFailure Found := do
  if bytes.length < 5 then throw (.error .tooShort)
  let byteCount ← index bytes 0
  let expected ← checkedAdd byteCount.toNat 5
  if bytes.length ≠ expected then throw (.error .lengthMismatch)
  let sum := bytes.foldl (· + ·) 0
  if sum ≠ 0 then throw (.error (.badChecksum sum))
  let high ← index bytes 1
  let low ← index bytes 2
  let address := UInt16.ofNat (fromBeBytes [high, low])
  let recordType ← index bytes 3
  if recordType = 0x00 then do
    let stop ← checkedAdd 4 byteCount.toNat
    let data ← slice bytes 4 stop
    pure (.data ⟨address, data⟩)
  else if recordType = 0x01 then pure .eof
  else pure .skipped

/-- A line that is not blank, without the blanks around it. -/
def parseLine (line : List Char) : MayPanic LineFailure Found := do
  if line.head? ≠ some ':' then throw (.error .missingColon)
  let digits ← sliceBytes line 1 (byteLen line)
  let bytes ← (hexDecode digits).mapError (Stop.map .invalidHex)
  checkRecord bytes

/-- The lines from number `lineNum` on, counted from zero, with the records so far. -/
def parseLines : Nat → List (List Char) → List HexRecord → MayPanic HexFailure (List HexRecord)
  | _, [], records => pure records
  | lineNum, line :: rest, records =>
    let line := trim line
    if line = [] then parseLines (lineNum + 1) rest records
    else match parseLine line with
      | .ok (.data record) => parseLines (lineNum + 1) rest (records ++ [record])
      | .ok .eof => pure records
      | .ok .skipped => parseLines (lineNum + 1) rest records
      | .error (.error cause) => do
        let number ← checkedAdd lineNum 1
        throw (.error ⟨number, cause⟩)
      | .error .panicked => .error .panicked
      | .error .outOfFuel => .error .outOfFuel

def parseHex (text : Str) : MayPanic HexFailure (List HexRecord) :=
  parseLines 0 (lines text.chars) []

/-- A record of any type. Its length is one byte. -/
structure Record where
  kind : UInt8
  content : HexRecord
  fits : content.data.length ≤ 255

namespace Record

/-- All but the checksum. -/
def body (r : Record) : List UInt8 :=
  UInt8.ofNat r.content.data.length :: toBeBytes 2 r.content.address.toNat ++ r.kind :: r.content.data

def bytes (r : Record) : List UInt8 := r.body ++ [-byteSum r.body]

def found (r : Record) : Found :=
  if r.kind = 0x00 then .data r.content else if r.kind = 0x01 then .eof else .skipped

/-- A line with the record, its digits in pairs whose first is read with `lead`. -/
def Line (lead : Char → Option Nat) (r : Record) (line : List Char) : Prop :=
  ∃ digits, line = ':' :: digits ∧ readPairs lead digits = some r.bytes

end Record

/-- Lines without an EOF record, and the data records in them. -/
inductive Loads (lead : Char → Option Nat) : List (List Char) → List HexRecord → Prop
  | none : Loads lead [] []
  | blank {line rest records} (hline : trim line = []) (hrest : Loads lead rest records) :
      Loads lead (line :: rest) records
  | data {line rest records} (r : Record) (hkind : r.kind = 0x00) (hline : r.Line lead (trim line))
      (hrest : Loads lead rest records) : Loads lead (line :: rest) (r.content :: records)
  | skipped {line rest records} (r : Record) (hkind : r.kind ≠ 0x00) (heof : r.kind ≠ 0x01)
      (hline : r.Line lead (trim line)) (hrest : Loads lead rest records) :
      Loads lead (line :: rest) records

/-- Lines up to an EOF record, or all of them. What is behind the EOF record is not looked at. -/
def Accepts (lead : Char → Option Nat) (lines : List (List Char)) (records : List HexRecord) : Prop :=
  Loads lead lines records ∨
    ∃ front line back, lines = front ++ line :: back ∧ Loads lead front records ∧
      ∃ r : Record, r.kind = 0x01 ∧ r.Line lead (trim line)

variable {s digits front back line done rest : List Char} {bytes : List UInt8}
  {lead : Char → Option Nat} {c d : Char} {i k : Nat}

/-- The first two bytes of a text are two characters, one, or cut one. -/
def firstPair : List Char → MayPanic HexDecodeFailure UInt8
  | [] => .error .panicked
  | c :: rest =>
    if c.utf8Size = 1 then
      match rest with
      | [] => .error .panicked
      | d :: _ =>
        if d.utf8Size = 1 then
          match leadDigit c, hexDigit d with
          | some high, some low => .ok (UInt8.ofNat (high * 16 + low))
          | _, _ => .error (.error (.parseInt .invalidDigit))
        else .error .panicked
    else if c.utf8Size = 2 then .error (.error (.parseInt .invalidDigit))
    else .error .panicked

/-- The decoder by characters instead of positions. -/
def decodePairs : List Char → MayPanic HexDecodeFailure (List UInt8)
  | [] => .ok []
  | [c] => do
    let byte ← firstPair [c]
    pure [byte]
  | c :: d :: rest => do
    let byte ← firstPair (c :: d :: rest)
    let bytes ← decodePairs rest
    pure (byte :: bytes)

theorem u8FromHex_two (h : c.utf8Size = 2) : u8FromHex [c] = .error .invalidDigit := by
  have hdigit : hexDigit c = none := by
    cases hc : hexDigit c with
    | none => rfl
    | some v =>
      rw [utf8Size_of_hexDigit hc] at h
      cases h
  have hplus : c ≠ '+' := by
    rintro rfl
    cases h
  have hminus : c ≠ '-' := by
    rintro rfl
    cases h
  simp [u8FromHex, hplus, hminus, hexDigits, hdigit]

theorem firstPair_eq (s : List Char) :
    (match splitBytes 2 s with
      | none => .error .panicked
      | some (part, _) => reported ((u8FromHex part).mapError .parseInt)) = firstPair s := by
  match s with
  | [] => rfl
  | [c] =>
    have := c.utf8Size_pos
    by_cases hone : c.utf8Size = 1
    · simp [splitBytes, firstPair, hone]
    · by_cases htwo : c.utf8Size = 2
      · simp [splitBytes, firstPair, htwo, u8FromHex_two htwo]
        rfl
      · simp [splitBytes, firstPair, hone, htwo, show ¬c.utf8Size ≤ 2 by omega]
  | c :: d :: rest =>
    have := c.utf8Size_pos
    have := d.utf8Size_pos
    by_cases hone : c.utf8Size = 1
    · by_cases hd : d.utf8Size = 1
      · have hsplit : splitBytes 2 (c :: d :: rest) = some ([c, d], rest) := by
          simp [splitBytes, hone, hd]
        rw [hsplit, firstPair, if_pos hone]
        dsimp only
        rw [if_pos hd, u8FromHex_pair]
        cases leadDigit c <;> cases hexDigit d <;> rfl
      · simp [splitBytes, firstPair, hone, hd, show ¬d.utf8Size ≤ 1 by omega]
    · by_cases htwo : c.utf8Size = 2
      · simp [splitBytes, firstPair, htwo, u8FromHex_two htwo]
        rfl
      · simp [splitBytes, firstPair, hone, htwo, show ¬c.utf8Size ≤ 2 by omega]

/-- A pair behind whole characters. -/
theorem decodePair_append (hdone : byteLen done = 2 * i) (hbound : byteLen (done ++ rest) < 2 ^ 63) :
    decodePair (done ++ rest) i = firstPair rest := by
  have hlen : 2 * i < 2 ^ 63 := by
    rw [byteLen_append] at hbound
    omega
  rw [decodePair, checkedMul_eq (by omega)]
  change (checkedAdd (i * 2) 2 >>= _) = _
  rw [checkedAdd_eq (by omega), Nat.mul_comm i 2, ← hdone]
  change (sliceBytes (done ++ rest) (byteLen done) (byteLen done + 2) >>= _) = _
  rw [sliceBytes_append, ← firstPair_eq]
  cases splitBytes 2 rest with
  | none => rfl
  | some parts => rfl

/-- A byte comes from two digits, or from a plus sign and one. -/
theorem firstPair_eq_ok {byte : UInt8} :
    firstPair (c :: d :: rest) = .ok byte ↔ ∃ high low, leadDigit c = some high ∧
      hexDigit d = some low ∧ byte = UInt8.ofNat (high * 16 + low) := by
  rw [firstPair]
  constructor
  · intro h
    split at h
    · split at h
      · split at h
        · cases h
          exact ⟨_, _, ‹_›, ‹_›, rfl⟩
        · cases h
      · cases h
    · split at h <;> cases h
  · rintro ⟨high, low, hc, hd, rfl⟩
    rw [if_pos (utf8Size_of_leadDigit hc), if_pos (utf8Size_of_hexDigit hd), hc, hd]

theorem firstPair_singleton {byte : UInt8} : firstPair [c] ≠ .ok byte := by
  rw [firstPair]
  intro h
  split at h
  · cases h
  · split at h <;> cases h

/-- The decoder takes the pairs that are read with a plus sign for a first digit. -/
theorem decodePairs_eq_ok : decodePairs s = .ok bytes ↔ readPairs leadDigit s = some bytes := by
  induction s using decodePairs.induct generalizing bytes with
  | case1 => simp [decodePairs, readPairs]
  | case2 c =>
    rw [decodePairs, readPairs]
    cases hpair : firstPair [c] with
    | error e => simp [Bind.bind, Except.bind]
    | ok byte => exact absurd hpair firstPair_singleton
  | case3 c d rest ih =>
    rw [decodePairs, readPairs_cons_cons]
    constructor
    · intro h
      cases hpair : firstPair (c :: d :: rest) with
      | error e =>
        rw [hpair] at h
        cases h
      | ok byte =>
        cases hrest : decodePairs rest with
        | error e =>
          rw [hpair, hrest] at h
          cases h
        | ok bytes' =>
          rw [hpair, hrest] at h
          cases h
          obtain ⟨high, low, hc, hd, rfl⟩ := firstPair_eq_ok.mp hpair
          exact ⟨high, low, bytes', hc, hd, ih.mp hrest, rfl⟩
    · rintro ⟨high, low, bytes', hc, hd, hrest, rfl⟩
      rw [firstPair_eq_ok.mpr ⟨high, low, hc, hd, rfl⟩, ih.mpr hrest]
      rfl

/-- The pairs from `i` on read what is behind the first ones. -/
theorem mapM_decodePair (hdone : byteLen done = 2 * i) (hrest : byteLen rest = 2 * k)
    (hbound : byteLen (done ++ rest) < 2 ^ 63) :
    (List.range' i k).mapM (decodePair (done ++ rest)) = decodePairs rest := by
  -- on the pairs that are left; a byte that is read takes two characters from the rest
  induction k generalizing i done rest with
  | zero =>
    have hempty : rest = [] := by
      have := length_le_byteLen rest
      exact List.eq_nil_of_length_eq_zero (by omega)
    subst hempty
    rfl
  | succ k ih =>
    rw [List.range'_succ, List.mapM_cons, decodePair_append hdone hbound]
    match rest with
    | [] => cases hrest
    | [c] =>
      rw [decodePairs]
      cases hpair : firstPair [c] with
      | error e => rfl
      | ok byte => exact absurd hpair firstPair_singleton
    | c :: d :: rest =>
      rw [decodePairs]
      cases hpair : firstPair (c :: d :: rest) with
      | error e => rfl
      | ok byte =>
        obtain ⟨high, low, hc, hd, -⟩ := firstPair_eq_ok.mp hpair
        have hsizes : byteLen [c, d] = 2 := by
          rw [byteLen_cons, byteLen_cons, byteLen_nil, utf8Size_of_leadDigit hc, utf8Size_of_hexDigit hd]
        have hsplit : done ++ c :: d :: rest = (done ++ [c, d]) ++ rest := by
          rw [List.append_assoc, List.cons_append, List.cons_append, List.nil_append]
        have hleft : byteLen rest = 2 * k := by
          have : byteLen ([c, d] ++ rest) = 2 * (k + 1) := hrest
          rw [byteLen_append, hsizes] at this
          omega
        rw [hsplit] at hbound ⊢
        rw [ih (by rw [byteLen_append, hsizes]; omega) hleft hbound]

theorem hexDecode_eq (hbound : byteLen s < 2 ^ 63) :
    hexDecode s = if byteLen s % 2 ≠ 0 then .error (.error .oddLength) else decodePairs s := by
  unfold hexDecode
  by_cases hodd : byteLen s % 2 ≠ 0
  · rw [if_pos hodd, if_pos hodd]
    rfl
  · rw [if_neg hodd, if_neg hodd, List.range_eq_range']
    have hpairs : byteLen s = 2 * (byteLen s / 2) := by omega
    have hmap : (List.range' 0 (byteLen s / 2)).mapM (decodePair ([] ++ s)) = decodePairs s :=
      mapM_decodePair rfl hpairs hbound
    exact hmap

section
variable {count high low kind : UInt8} {tail : List UInt8} {found : Found}

theorem checkRecord_short (h : bytes.length < 5) : checkRecord bytes = .error (.error .tooShort) := by
  rw [checkRecord, if_pos h]
  rfl

/-- The checks of bytes that are long enough, with the data and the checksum at their end. -/
theorem checkRecord_eq (hne : tail ≠ []) :
    checkRecord (count :: high :: low :: kind :: tail) =
      if tail.length ≠ count.toNat + 1 then .error (.error .lengthMismatch)
      else if byteSum (count :: high :: low :: kind :: tail) ≠ 0 then
        .error (.error (.badChecksum (byteSum (count :: high :: low :: kind :: tail))))
      else .ok (if kind = 0x00 then .data ⟨UInt16.ofNat (fromBeBytes [high, low]), tail.dropLast⟩
        else if kind = 0x01 then .eof else .skipped) := by
  have hpos := List.length_pos_of_ne_nil hne
  have hlen : (count :: high :: low :: kind :: tail).length = tail.length + 4 := by simp
  have hcount := count.toNat_lt
  have hfold : (count :: high :: low :: kind :: tail).foldl (· + ·) 0 =
      byteSum (count :: high :: low :: kind :: tail) := by rw [foldl_add_eq, UInt8.zero_add]
  rw [← hfold]
  unfold checkRecord
  rw [if_neg (by omega)]
  change (checkedAdd count.toNat 5 >>= _) = _
  rw [checkedAdd_eq (by omega)]
  by_cases hmatch : tail.length ≠ count.toNat + 1
  · rw [if_pos hmatch]
    change (if _ then _ else _) = _
    rw [if_pos (by omega)]
    rfl
  · rw [if_neg hmatch]
    change (if _ then _ else _) = _
    rw [if_neg (by omega)]
    change (if _ then _ else _) = _
    by_cases hsum : (count :: high :: low :: kind :: tail).foldl (· + ·) 0 ≠ 0
    · rw [if_pos hsum, if_pos hsum]
      rfl
    · rw [if_neg hsum, if_neg hsum]
      change (if kind = 0x00 then _ else if kind = 0x01 then _ else _) = _
      by_cases hdata : kind = 0x00
      · have hdrop : ((count :: high :: low :: kind :: tail).drop 4).take (4 + count.toNat - 4) =
            tail.dropLast := by
          rw [Nat.add_sub_cancel_left, List.dropLast_eq_take, not_not.mp hmatch]
          rfl
        rw [if_pos hdata, if_pos hdata, checkedAdd_eq (by omega)]
        change (slice _ 4 (4 + count.toNat) >>= _) = _
        rw [slice_eq (by omega) (by omega), hdrop]
        rfl
      · rw [if_neg hdata, if_neg hdata]
        by_cases heof : kind = 0x01
        · rw [if_pos heof, if_pos heof]
          rfl
        · rw [if_neg heof, if_neg heof]
          rfl

theorem checkRecord_reports (bytes : List UInt8) : Reports (checkRecord bytes) := by
  match bytes with
  | [] | [_] | [_, _] | [_, _, _] | [_, _, _, _] =>
    rw [checkRecord_short (by simp)]
    exact .error _
  | count :: high :: low :: kind :: last :: tail =>
    rw [checkRecord_eq (List.cons_ne_nil last tail)]
    split
    · exact .error _
    · split
      · exact .error _
      · exact .ok _

namespace Record

/-- The record's own checks hold. -/
theorem bytes_eq (r : Record) : ∃ high low, [high, low] = toBeBytes 2 r.content.address.toNat ∧
    r.bytes = UInt8.ofNat r.content.data.length :: high :: low :: r.kind ::
      (r.content.data ++ [-byteSum r.body]) :=
  ⟨_, _, rfl, rfl⟩

theorem sum_bytes (r : Record) : byteSum r.bytes = 0 := by
  rw [bytes, byteSum_append, byteSum_singleton, UInt8.add_right_neg]

theorem length_bytes (r : Record) : r.bytes.length = r.content.data.length + 5 := by
  obtain ⟨high, low, -, hbytes⟩ := r.bytes_eq
  rw [hbytes]
  simp

theorem address_eq (r : Record) {high low : UInt8}
    (h : [high, low] = toBeBytes 2 r.content.address.toNat) :
    UInt16.ofNat (fromBeBytes [high, low]) = r.content.address := by
  have := r.content.address.toNat_lt
  rw [h, fromBeBytes_toBeBytes, Nat.mod_eq_of_lt (by omega), UInt16.ofNat_toNat]

theorem checkRecord_bytes (r : Record) : checkRecord r.bytes = .ok r.found := by
  obtain ⟨high, low, haddress, hbytes⟩ := r.bytes_eq
  have hcount : (UInt8.ofNat r.content.data.length).toNat = r.content.data.length :=
    UInt8.toNat_ofNat_of_lt' (Nat.lt_succ_of_le r.fits)
  rw [hbytes, checkRecord_eq (by simp), ← hbytes, r.sum_bytes, hcount, List.length_append,
    List.length_singleton, if_neg (not_not.mpr rfl), if_neg (not_not.mpr rfl), r.address_eq haddress,
    List.dropLast_concat]
  rfl

end Record

/-- A length and a sum that match make a record. -/
theorem exists_record_of_sum {data : List UInt8} {last : UInt8} (hlen : data.length = count.toNat)
    (hsum : byteSum (count :: high :: low :: kind :: (data ++ [last])) = 0) :
    ∃ r : Record, r.bytes = count :: high :: low :: kind :: (data ++ [last]) ∧
      r.found = if kind = 0x00 then .data ⟨UInt16.ofNat (fromBeBytes [high, low]), data⟩
        else if kind = 0x01 then .eof else .skipped := by
  have hcount := count.toNat_lt
  have hword : fromBeBytes [high, low] < UInt16.size := by
    have := fromBeBytes_lt [high, low]
    rwa [List.length_cons, List.length_singleton] at this
  have haddress : toBeBytes 2 (UInt16.ofNat (fromBeBytes [high, low])).toNat = [high, low] := by
    rw [UInt16.toNat_ofNat_of_lt' hword]
    exact toBeBytes_fromBeBytes [high, low]
  let r : Record := ⟨kind, ⟨UInt16.ofNat (fromBeBytes [high, low]), data⟩, by dsimp only; omega⟩
  have hbody : r.body = count :: high :: low :: kind :: data := by
    change UInt8.ofNat data.length :: toBeBytes 2 _ ++ kind :: data = _
    rw [haddress, hlen, UInt8.ofNat_toNat]
    rfl
  refine ⟨r, ?_, rfl⟩
  have hzero : byteSum (r.body ++ [last]) = 0 := by
    rw [hbody]
    exact hsum
  rw [byteSum_append, byteSum_singleton] at hzero
  have hlast : last = -byteSum r.body :=
    (UInt8.add_right_inj _).mp (hzero.trans (UInt8.add_right_neg _).symm)
  rw [Record.bytes, ← hlast, hbody]
  rfl

/-- Bytes that pass the checks are a record's. -/
theorem checkRecord_eq_ok :
    checkRecord bytes = .ok found ↔ ∃ r : Record, r.bytes = bytes ∧ r.found = found := by
  constructor
  · intro h
    match bytes with
    | [] | [_] | [_, _] | [_, _, _] | [_, _, _, _] =>
      rw [checkRecord_short (by simp)] at h
      cases h
    | count :: high :: low :: kind :: first :: tail =>
      obtain ⟨data, last, htail⟩ :=
        (List.eq_nil_or_concat' (first :: tail)).resolve_left (List.cons_ne_nil first tail)
      rw [htail, checkRecord_eq (by simp)] at h
      rw [htail]
      split at h
      · cases h
      rename_i hlen
      split at h
      · cases h
      rename_i hsum
      cases h
      rw [List.dropLast_concat]
      exact exists_record_of_sum (by simpa using hlen) (not_not.mp hsum)
  · rintro ⟨r, rfl, rfl⟩
    exact r.checkRecord_bytes

end

variable {found : Found} {records new out : List HexRecord} {all earlier later : List (List Char)}
  {lineNum : Nat}

theorem byteLen_of_readPairs (h : readPairs leadDigit digits = some bytes) :
    byteLen digits = 2 * bytes.length := by
  induction digits using readPairs.induct generalizing bytes with
  | case1 =>
    cases h
    rfl
  | case2 => cases h
  | case3 c d rest ih =>
    obtain ⟨high, low, bytes', hc, hd, hrest, rfl⟩ := readPairs_cons_cons.mp h
    rw [byteLen_cons, byteLen_cons, utf8Size_of_leadDigit hc, utf8Size_of_hexDigit hd, ih hrest,
      List.length_cons]
    omega

theorem hexDecode_eq_ok (hbound : byteLen s < 2 ^ 63) :
    hexDecode s = .ok bytes ↔ readPairs leadDigit s = some bytes := by
  rw [hexDecode_eq hbound]
  split
  · rename_i hodd
    refine ⟨nofun, fun h => absurd ?_ hodd⟩
    rw [byteLen_of_readPairs h]
    omega
  · exact decodePairs_eq_ok

/-- Behind the colon are the digits of the record. -/
theorem parseLine_colon (digits : List Char) :
    parseLine (':' :: digits) = (hexDecode digits).mapError (Stop.map .invalidHex) >>= checkRecord := by
  have hslice : (sliceBytes (':' :: digits) 1 (byteLen (':' :: digits)) :
      MayPanic LineFailure (List Char)) = .ok digits := by
    have hpart := sliceBytes_append (ε := LineFailure) [':'] digits (byteLen digits)
    have hwhole := splitBytes_append digits []
    rw [List.append_nil] at hwhole
    rw [hwhole] at hpart
    exact hpart
  rw [parseLine, if_neg (by simp)]
  change (sliceBytes (':' :: digits) 1 (byteLen (':' :: digits)) >>= _) = _
  rw [hslice]
  rfl

theorem parseLine_no_colon (h : line.head? ≠ some ':') :
    parseLine line = .error (.error .missingColon) := by
  rw [parseLine, if_pos h]
  rfl

/-- A line is taken if it is a record's. -/
theorem parseLine_eq_ok (hbound : byteLen line < 2 ^ 63) :
    parseLine line = .ok found ↔ ∃ r : Record, r.Line leadDigit line ∧ r.found = found := by
  constructor
  · intro h
    by_cases hcolon : line.head? = some ':'
    · obtain ⟨digits, rfl⟩ := List.head?_eq_some_iff.mp hcolon
      rw [byteLen_cons] at hbound
      rw [parseLine_colon] at h
      cases hdecode : hexDecode digits with
      | error e =>
        rw [hdecode] at h
        cases h
      | ok bytes =>
        rw [hdecode] at h
        obtain ⟨r, rfl, hfound⟩ := checkRecord_eq_ok.mp h
        exact ⟨r, ⟨digits, rfl, (hexDecode_eq_ok (by omega)).mp hdecode⟩, hfound⟩
    · rw [parseLine_no_colon hcolon] at h
      cases h
  · rintro ⟨r, ⟨digits, rfl, hdigits⟩, rfl⟩
    rw [byteLen_cons] at hbound
    rw [parseLine_colon, (hexDecode_eq_ok (by omega)).mpr hdigits]
    exact r.checkRecord_bytes

theorem Record.Line.ne_nil {r : Record} (h : r.Line lead line) : line ≠ [] := by
  obtain ⟨digits, rfl, -⟩ := h
  exact List.cons_ne_nil _ _

/-- A line that is read decides how the next ones are. -/
theorem parseLines_cons {r : Record} (hline : r.Line leadDigit (trim line))
    (hbound : byteLen line < 2 ^ 63) :
    parseLines lineNum (line :: later) records = match r.found with
      | .data record => parseLines (lineNum + 1) later (records ++ [record])
      | .eof => .ok records
      | .skipped => parseLines (lineNum + 1) later records := by
  have hparse : parseLine (trim line) = .ok r.found :=
    (parseLine_eq_ok ((byteLen_trim_le line).trans_lt hbound)).mpr ⟨r, hline, rfl⟩
  rw [parseLines, if_neg hline.ne_nil, hparse]
  cases r.found <;> rfl

theorem parseLines_blank (hline : trim line = []) :
    parseLines lineNum (line :: later) records = parseLines (lineNum + 1) later records := by
  rw [parseLines, if_pos hline]

/-- Lines without an EOF record are read one after the other. -/
theorem parseLines_append (h : Loads leadDigit earlier new)
    (hbound : ∀ line ∈ earlier, byteLen line < 2 ^ 63) :
    parseLines lineNum (earlier ++ later) records =
      parseLines (lineNum + earlier.length) later (records ++ new) := by
  induction h generalizing lineNum records with
  | none => simp
  | blank hline hrest ih =>
    rw [List.cons_append, parseLines_blank hline, ih (List.forall_mem_cons.mp hbound).2,
      List.length_cons, Nat.add_assoc, Nat.add_comm 1]
  | data r hkind hline hrest ih =>
    obtain ⟨hfirst, hothers⟩ := List.forall_mem_cons.mp hbound
    have hfound : r.found = .data r.content := if_pos hkind
    rw [List.cons_append, parseLines_cons hline hfirst, hfound]
    dsimp only
    rw [ih hothers, List.length_cons, Nat.add_assoc, Nat.add_comm 1, List.append_assoc,
      List.singleton_append]
  | skipped r hkind heof hline hrest ih =>
    obtain ⟨hfirst, hothers⟩ := List.forall_mem_cons.mp hbound
    have hfound : r.found = .skipped := (if_neg hkind).trans (if_neg heof)
    rw [List.cons_append, parseLines_cons hline hfirst, hfound]
    dsimp only
    rw [ih hothers, List.length_cons, Nat.add_assoc, Nat.add_comm 1]

theorem Loads.append (h : Loads lead earlier new) (h' : Loads lead later records) :
    Loads lead (earlier ++ later) (new ++ records) := by
  induction h with
  | none => exact h'
  | blank hline _ ih => exact .blank hline ih
  | data r hkind hline _ ih => exact .data r hkind hline ih
  | skipped r hkind heof hline _ ih => exact .skipped r hkind heof hline ih

theorem Accepts.after (h : Loads lead earlier new) (h' : Accepts lead later records) :
    Accepts lead (earlier ++ later) (new ++ records) := by
  rcases h' with h' | ⟨front, line, back, rfl, h', heof⟩
  · exact .inl (h.append h')
  · exact .inr ⟨earlier ++ front, line, back, (List.append_assoc ..).symm, h.append h', heof⟩

/-- The first line is blank or a record's, and a record that is no EOF record is followed by lines
that are read as well. -/
theorem accepts_of_parseLines (hbound : ∀ line ∈ all, byteLen line < 2 ^ 63)
    (h : parseLines lineNum all records = .ok out) :
    ∃ new, out = records ++ new ∧ Accepts leadDigit all new := by
  induction all generalizing lineNum records with
  | nil =>
    cases h
    exact ⟨[], (List.append_nil _).symm, .inl .none⟩
  | cons line later ih =>
    obtain ⟨hfirst, hothers⟩ := List.forall_mem_cons.mp hbound
    have hnext : ∀ {so one : List HexRecord}, Loads leadDigit [line] one →
        parseLines (lineNum + 1) later (so ++ one) = .ok out →
        ∃ new, out = so ++ new ∧ Accepts leadDigit (line :: later) new := by
      intro so one hline hlater
      obtain ⟨new, rfl, hnew⟩ := ih hothers hlater
      exact ⟨one ++ new, List.append_assoc .., .after hline hnew⟩
    by_cases hblank : trim line = []
    · rw [parseLines_blank hblank] at h
      exact hnext (.blank hblank .none) (by rwa [List.append_nil])
    · cases hparse : parseLine (trim line) with
      | error e =>
        rw [parseLines, if_neg hblank, hparse] at h
        cases e with
        | error cause =>
          cases hnumber : (checkedAdd lineNum 1 : MayPanic HexFailure Nat) <;>
            rw [hnumber] at h <;> cases h
        | panicked => cases h
        | outOfFuel => cases h
      | ok found =>
        obtain ⟨r, hline, -⟩ := (parseLine_eq_ok
          ((byteLen_trim_le line).trans_lt hfirst)).mp hparse
        rw [parseLines_cons hline hfirst, Record.found] at h
        by_cases hdata : r.kind = 0x00
        · rw [if_pos hdata] at h
          exact hnext (.data r hdata hline .none) h
        · by_cases heof : r.kind = 0x01
          · rw [if_neg hdata, if_pos heof] at h
            cases h
            exact ⟨[], (List.append_nil _).symm, .inr ⟨[], line, later, rfl, .none, r, heof, hline⟩⟩
          · rw [if_neg hdata, if_neg heof] at h
            exact hnext (.skipped r hdata heof hline .none) (by rwa [List.append_nil])

theorem parseLines_of_accepts (hbound : ∀ line ∈ all, byteLen line < 2 ^ 63)
    (h : Accepts leadDigit all new) : parseLines lineNum all records = .ok (records ++ new) := by
  rcases h with h | ⟨front, line, back, rfl, h, r, heof, hline⟩
  · have hall : parseLines lineNum (all ++ []) records = _ := parseLines_append h hbound
    rw [List.append_nil] at hall
    exact hall
  · obtain ⟨hfront, hlater⟩ := List.forall_mem_append.mp hbound
    have hfound : r.found = .eof := by
      rw [Record.found, heof]
      rfl
    rw [parseLines_append h hfront, parseLines_cons hline (hlater line List.mem_cons_self), hfound]

theorem byteLen_of_mem_lines (text : Str) (h : line ∈ lines text.chars) : byteLen line < 2 ^ 63 :=
  (byteLen_le_of_sublist (sublist_of_mem_lines h)).trans_lt text.bound

/-- What the reader accepts. -/
theorem parseHex_eq_ok (text : Str) :
    parseHex text = .ok records ↔ Accepts leadDigit (lines text.chars) records := by
  constructor
  · intro h
    obtain ⟨new, rfl, hnew⟩ := accepts_of_parseLines (fun _ => byteLen_of_mem_lines text) h
    exact hnew
  · exact parseLines_of_accepts fun _ => byteLen_of_mem_lines text

theorem Loads.mono {lead' : Char → Option Nat}
    (hlead : ∀ line ∈ all, ∀ r : Record, r.Line lead (trim line) → r.Line lead' (trim line))
    (h : Loads lead all records) : Loads lead' all records := by
  induction h with
  | none => exact .none
  | blank hline _ ih => exact .blank hline (ih (List.forall_mem_cons.mp hlead).2)
  | data r hkind hline _ ih =>
    obtain ⟨hfirst, hothers⟩ := List.forall_mem_cons.mp hlead
    exact .data r hkind (hfirst r hline) (ih hothers)
  | skipped r hkind heof hline _ ih =>
    obtain ⟨hfirst, hothers⟩ := List.forall_mem_cons.mp hlead
    exact .skipped r hkind heof (hfirst r hline) (ih hothers)

theorem Accepts.mono {lead' : Char → Option Nat}
    (hlead : ∀ line ∈ all, ∀ r : Record, r.Line lead (trim line) → r.Line lead' (trim line))
    (h : Accepts lead all records) : Accepts lead' all records := by
  rcases h with h | ⟨front, line, back, rfl, h, r, heof, hline⟩
  · exact .inl (h.mono hlead)
  · obtain ⟨hfront, hback⟩ := List.forall_mem_append.mp hlead
    exact .inr ⟨front, line, back, rfl, h.mono hfront, r, heof, hback line List.mem_cons_self r hline⟩

/-- Digits are read as the library reads them. -/
theorem Record.Line.leads {r : Record} (h : r.Line hexDigit line) : r.Line leadDigit line := by
  obtain ⟨digits, hline, hdigits⟩ := h
  exact ⟨digits, hline, readPairs_mono (fun _ _ _ => leadDigit_of_hexDigit) hdigits⟩

theorem Record.Line.without_plus {r : Record} (hplus : '+' ∉ line) (h : r.Line leadDigit line) :
    r.Line hexDigit line := by
  obtain ⟨digits, rfl, hdigits⟩ := h
  exact ⟨digits, rfl, (readPairs_leadDigit_iff (mt (List.mem_cons_of_mem _) hplus)).mp hdigits⟩

/-- Without a plus sign in the text, the lines that are taken are records in digits. -/
theorem parseHex_eq_ok_of_not_mem (text : Str) (hplus : '+' ∉ text.chars) :
    parseHex text = .ok records ↔ Accepts hexDigit (lines text.chars) records := by
  rw [parseHex_eq_ok]
  constructor
  · refine Accepts.mono fun line hline r hr => hr.without_plus fun hmem => hplus ?_
    exact (sublist_of_mem_lines hline).subset ((trim_sublist line).subset hmem)
  · exact Accepts.mono fun _ _ _ => Record.Line.leads

theorem decodePairs_reports (hascii : ∀ c ∈ s, c.utf8Size = 1) (heven : s.length % 2 = 0) :
    Reports (decodePairs s) := by
  induction s using decodePairs.induct with
  | case1 => exact .ok []
  | case2 c => simp at heven
  | case3 c d rest ih =>
    obtain ⟨hc, hothers⟩ := List.forall_mem_cons.mp hascii
    obtain ⟨hd, hrest⟩ := List.forall_mem_cons.mp hothers
    have hpair : Reports (firstPair (c :: d :: rest)) := by
      rw [firstPair, if_pos hc, if_pos hd]
      split
      · exact .ok _
      · exact .error _
    rw [List.length_cons, List.length_cons] at heven
    rw [decodePairs]
    exact hpair.bind fun byte _ => (ih hrest (by omega)).bind fun bytes _ => .ok _

theorem hexDecode_reports (hascii : ∀ c ∈ s, c.utf8Size = 1) (hbound : byteLen s < 2 ^ 63) :
    Reports (hexDecode s) := by
  rw [hexDecode_eq hbound]
  split
  · exact .error _
  · rename_i heven
    rw [byteLen_of_ascii hascii] at heven
    exact decodePairs_reports hascii (not_not.mp heven)

theorem parseLine_reports (hascii : ∀ c ∈ line, c.utf8Size = 1) (hbound : byteLen line < 2 ^ 63) :
    Reports (parseLine line) := by
  by_cases hcolon : line.head? = some ':'
  · obtain ⟨digits, rfl⟩ := List.head?_eq_some_iff.mp hcolon
    rw [byteLen_cons] at hbound
    rw [parseLine_colon]
    have hdigits := hexDecode_reports (List.forall_mem_cons.mp hascii).2 (by omega)
    exact (hdigits.mapError _).bind fun bytes _ => checkRecord_reports bytes
  · rw [parseLine_no_colon hcolon]
    exact .error _

theorem parseLines_reports (hascii : ∀ line ∈ all, ∀ c ∈ line, c.utf8Size = 1)
    (hbound : ∀ line ∈ all, byteLen line < 2 ^ 63) (hnum : lineNum + all.length < 2 ^ 64) :
    Reports (parseLines lineNum all records) := by
  induction all generalizing lineNum records with
  | nil => exact .ok records
  | cons line later ih =>
    obtain ⟨hline, hascii⟩ := List.forall_mem_cons.mp hascii
    obtain ⟨hfirst, hbound⟩ := List.forall_mem_cons.mp hbound
    rw [List.length_cons] at hnum
    have hlater : ∀ {so}, Reports (parseLines (lineNum + 1) later so) :=
      ih hascii hbound (by omega)
    have hparse : Reports (parseLine (trim line)) :=
      parseLine_reports (fun c hc => hline c ((trim_sublist line).subset hc))
        ((byteLen_trim_le line).trans_lt hfirst)
    obtain ⟨result, hresult⟩ := hparse
    rw [parseLines]
    split
    · exact hlater
    · rw [hresult]
      cases result with
      | error cause =>
        change Reports (checkedAdd lineNum 1 >>= _)
        rw [checkedAdd_eq (by omega)]
        exact .error _
      | ok found =>
        cases found with
        | data record => exact hlater
        | eof => exact .ok records
        | skipped => exact hlater

/-- A text of one-byte characters is never cut inside of one. -/
theorem parseHex_reports (text : Str) (hascii : ∀ c ∈ text.chars, c.utf8Size = 1) :
    Reports (parseHex text) := by
  have hlen := lines_length_le text.chars
  have hbytes := length_le_byteLen text.chars
  have hbound := text.bound
  refine parseLines_reports (fun line hline c hc => ?_) (fun _ => byteLen_of_mem_lines text) (by omega)
  exact hascii c ((sublist_of_mem_lines hline).subset hc)

end Ugpibd.Backend.Agilent
