import Ugpibd.Library.Codec
import Ugpibd.Vxi11.Rpc

/-! Records as their sender splits them, and what reading them back gives. The end of the stream is
told apart from a broken record only by whether any bytes of the record have been read. -/
namespace Ugpibd.Vxi11
open Library

/-- Largest record accepted from a peer. -/
def recordMax : Nat := 32 * 1024 * 1024

/-- One fragment: the header word counts its bytes and marks the last one of a record. -/
def fragment (last : Bool) (body : List UInt8) : List UInt8 :=
  toBeBytes 4 ((if last then 2 ^ 31 else 0) + body.length) ++ body

/-- A record split into fragments, of which only the final one is marked. -/
def fragments (bodies : List (List UInt8)) (final : List UInt8) : List UInt8 :=
  bodies.flatMap (fragment false) ++ fragment true final

/-- A record as a single last fragment, refused where its length does not fit the header. -/
def writeRecord (payload : List UInt8) : Option (List UInt8) :=
  if 0x7FFFFFFF < payload.length then none else some (fragment true payload)

namespace Stream
variable {bytes rest front : List UInt8} {ending : StreamEnd} {n : Nat}

theorem readExact_append (h : bytes.length = n) :
    (Stream.mk (bytes ++ rest) ending).readExact n = .ok (bytes, ⟨rest, ending⟩) := by
  subst h
  simp [readExact]

theorem readExact_short (h : bytes.length < n) :
    (Stream.mk bytes ending).readExact n = .error ending.error :=
  if_neg (Nat.not_le.mpr h)

theorem readExact_ok {stream after : Stream} (h : stream.readExact n = .ok (bytes, after)) :
    stream.bytes = bytes ++ after.bytes ∧ bytes.length = n := by
  unfold readExact at h
  split at h
  · rename_i hle
    obtain ⟨rfl, rfl⟩ := Prod.mk.inj (Except.ok.inj h)
    exact ⟨(List.take_append_drop n _).symm, List.length_take_of_le hle⟩
  · cases h

theorem readExact_error {stream : Stream} {e : ReadError} (h : stream.readExact n = .error e) :
    stream.bytes.length < n := by
  unfold readExact at h
  split at h
  · cases h
  · omega

end Stream

section
variable {maxLen : Nat} {record header body rest front : List UInt8} {stream after : Stream}
  {ending : StreamEnd} {last : Bool}

/-- The loop at the end of the stream. -/
theorem readFragments_short (h : stream.bytes.length < 4) :
    readFragments maxLen record stream =
      if stream.ending = .eof ∧ record = [] then .ok none else .error stream.ending.error := by
  have hread : stream.readExact 4 = .error stream.ending.error := Stream.readExact_short h
  unfold readFragments
  split
  · rename_i he
    rw [hread] at he
    cases hend : stream.ending with
    | eof => simp [StreamEnd.error]
    | ioError => rw [hend] at he; cases he
  · rename_i e hne he
    rw [hread] at he
    cases he
    cases hend : stream.ending with
    | eof => exact absurd (by rw [hend]; rfl) hne
    | ioError => simp
  · rename_i he
    rw [hread] at he
    cases he

/-- The loop at a whole header. -/
theorem readFragments_header (h : stream.readExact 4 = .ok (header, after)) :
    readFragments maxLen record stream =
      if maxLen < record.length + fromBeBytes header % 2 ^ 31 then .error .invalidData
      else match after.readExact (fromBeBytes header % 2 ^ 31) with
        | .error e => .error e
        | .ok (fragment, rest) =>
          if 2 ^ 31 ≤ fromBeBytes header then .ok (some (record ++ fragment, rest))
          else readFragments maxLen (record ++ fragment) rest := by
  conv => lhs; unfold readFragments
  split
  · rename_i he
    rw [h] at he
    cases he
  · rename_i e _ he
    rw [h] at he
    cases he
  · rename_i he
    rw [h] at he
    cases he
    dsimp only
    refine if_congr Iff.rfl rfl ?_
    split <;> rename_i hbody <;> rw [hbody]

/-- The two numbers a fragment's header carries. -/
private theorem fragment_word (last : Bool) (hbody : body.length < 2 ^ 31) :
    let word := fromBeBytes (toBeBytes 4 ((if last then 2 ^ 31 else 0) + body.length))
    word % 2 ^ 31 = body.length ∧ (2 ^ 31 ≤ word ↔ last) := by
  intro word
  have hword : word = (if last then 2 ^ 31 else 0) + body.length := by
    refine (fromBeBytes_toBeBytes 4 _).trans (Nat.mod_eq_of_lt ?_)
    split <;> omega
  rw [hword]
  cases last <;> simp <;> omega

/-- One turn of the loop over a whole fragment. -/
theorem readFragments_fragment (hbody : body.length < 2 ^ 31) :
    readFragments maxLen record ⟨fragment last body ++ rest, ending⟩ =
      if maxLen < record.length + body.length then .error .invalidData
      else if last then .ok (some (record ++ body, ⟨rest, ending⟩))
      else readFragments maxLen (record ++ body) ⟨rest, ending⟩ := by
  obtain ⟨hlen, hlast⟩ := fragment_word last hbody
  rw [fragment, List.append_assoc, readFragments_header (Stream.readExact_append (by simp)), hlen,
    Stream.readExact_append rfl]
  simp only [hlast]

/-- Less than a fragment never completes a record. -/
theorem readFragments_cut (hbody : body.length < 2 ^ 31) (hfront : front <+: fragment last body)
    (hne : front ≠ fragment last body) (result : List UInt8 × Stream) :
    readFragments maxLen record ⟨front, ending⟩ ≠ .ok (some result) := by
  intro hok
  obtain ⟨hlen, -⟩ := fragment_word last hbody
  obtain ⟨hcut, hcut'⟩ | ⟨tail, rfl, hcut, hcut'⟩ := strict_prefix_append hfront hne
  · have hshort : front.length < 4 := by
      simpa using lt_of_le_of_ne hcut.length_le fun heq => hcut' (hcut.eq_of_length heq)
    rw [readFragments_short hshort] at hok
    split at hok <;> cases hok
  · have hshort : tail.length < body.length :=
      lt_of_le_of_ne hcut.length_le fun heq => hcut' (hcut.eq_of_length heq)
    rw [readFragments_header (Stream.readExact_append (by simp)), hlen,
      Stream.readExact_short hshort] at hok
    split at hok <;> cases hok

theorem fragments_cons (bodies : List (List UInt8)) (final : List UInt8) :
    fragments (body :: bodies) final = fragment false body ++ fragments bodies final := by
  simp [fragments]

variable {bodies : List (List UInt8)} {final : List UInt8}

/-- A whole record, however it was split. -/
theorem readFragments_fragments (hbodies : ∀ body ∈ bodies, body.length < 2 ^ 31)
    (hfinal : final.length < 2 ^ 31)
    (hmax : record.length + bodies.flatten.length + final.length ≤ maxLen) :
    readFragments maxLen record ⟨fragments bodies final ++ rest, ending⟩ =
      .ok (some (record ++ bodies.flatten ++ final, ⟨rest, ending⟩)) := by
  induction bodies generalizing record with
  | nil =>
    rw [List.flatten_nil, List.length_nil] at hmax
    rw [fragments, List.flatMap_nil, List.nil_append, readFragments_fragment hfinal,
      if_neg (by omega), if_pos rfl, List.flatten_nil, List.append_nil]
  | cons body bodies ih =>
    rw [List.flatten_cons, List.length_append] at hmax
    rw [fragments_cons, List.append_assoc, readFragments_fragment (hbodies body (by simp)),
      if_neg (by omega), if_neg (by simp),
      ih (fun b hb => hbodies b (List.mem_cons_of_mem _ hb)) (by rw [List.length_append]; omega)]
    simp

/-- A record longer than the limit is an error, however it was split. -/
theorem readFragments_tooLong (hbodies : ∀ body ∈ bodies, body.length < 2 ^ 31)
    (hfinal : final.length < 2 ^ 31)
    (hmax : maxLen < record.length + bodies.flatten.length + final.length) :
    readFragments maxLen record ⟨fragments bodies final ++ rest, ending⟩ = .error .invalidData := by
  induction bodies generalizing record with
  | nil =>
    rw [List.flatten_nil, List.length_nil] at hmax
    rw [fragments, List.flatMap_nil, List.nil_append, readFragments_fragment hfinal,
      if_pos (by omega)]
  | cons body bodies ih =>
    rw [List.flatten_cons, List.length_append] at hmax
    rw [fragments_cons, List.append_assoc, readFragments_fragment (hbodies body (by simp))]
    split
    · rfl
    · rw [if_neg (by simp)]
      exact ih (fun b hb => hbodies b (List.mem_cons_of_mem _ hb)) (by rw [List.length_append]; omega)

/-- Less than a record never completes one. -/
theorem readFragments_fragments_cut (hbodies : ∀ body ∈ bodies, body.length < 2 ^ 31)
    (hfinal : final.length < 2 ^ 31) (hfront : front <+: fragments bodies final)
    (hne : front ≠ fragments bodies final) (result : List UInt8 × Stream) :
    readFragments maxLen record ⟨front, ending⟩ ≠ .ok (some result) := by
  induction bodies generalizing record front with
  | nil => exact readFragments_cut hfinal hfront hne result
  | cons body bodies ih =>
    have hbody := hbodies body (by simp)
    rw [fragments_cons] at hfront hne
    obtain ⟨hcut, hcut'⟩ | ⟨tail, rfl, hcut, hcut'⟩ := strict_prefix_append hfront hne
    · exact readFragments_cut hbody hcut hcut' result
    · rw [readFragments_fragment hbody]
      split
      · exact nofun
      · rw [if_neg (by simp)]
        exact ih (fun b hb => hbodies b (List.mem_cons_of_mem _ hb)) hcut hcut'

/-- What a stream that holds no record looks like to the loop: empty fragments, none of them the
last, and less than a header. -/
def OnlyEmptyFragments (bytes : List UInt8) : Prop :=
  ∃ n tail, bytes = List.replicate (4 * n) 0 ++ tail ∧ tail.length < 4

theorem readFragments_none (h : readFragments maxLen record stream = .ok none) :
    record = [] ∧ OnlyEmptyFragments stream.bytes := by
  fun_induction readFragments maxLen record stream with
  | case1 stream hread =>
    exact ⟨rfl, 0, stream.bytes, by simp, Stream.readExact_error hread⟩
  | case7 record stream header body hheader word len hmax fragment rest hbody hlast ih =>
    obtain ⟨hempty, n, tail, hrest, htail⟩ := ih h
    obtain ⟨hrecord, hfragment⟩ := List.append_eq_nil_iff.mp hempty
    obtain ⟨hstream, hfour⟩ := Stream.readExact_ok hheader
    obtain ⟨hbytes, hlen⟩ := Stream.readExact_ok hbody
    -- an empty fragment that is not the last has the zero word for its header
    have hword : word = 0 := by
      rw [hfragment, List.length_nil] at hlen
      omega
    refine ⟨hrecord, n + 1, tail, ?_, htail⟩
    rw [hstream, fromBeBytes_eq_zero hword, hfour, hbytes, hfragment, List.nil_append, hrest,
      Nat.mul_succ, Nat.add_comm, List.replicate_add, List.append_assoc]
  | _ => cases h

theorem readRecord_of_onlyEmptyFragments {bytes : List UInt8} (h : OnlyEmptyFragments bytes) :
    readRecord maxLen ⟨bytes, .eof⟩ = .ok none := by
  obtain ⟨n, tail, rfl, htail⟩ := h
  have hzeros : List.replicate 4 (0 : UInt8) = fragment false [] := by decide
  unfold readRecord
  induction n with
  | zero =>
    rw [readFragments_short (by simpa using htail), if_pos ⟨rfl, rfl⟩]
  | succ n ih =>
    rw [Nat.mul_succ, Nat.add_comm, List.replicate_add, hzeros, List.append_assoc,
      readFragments_fragment (by decide), if_neg (by simp), if_neg (by simp)]
    exact ih

/-- A record takes at least its header off the stream. -/
theorem readFragments_length {result : List UInt8} {rest : Stream}
    (h : readFragments maxLen record stream = .ok (some (result, rest))) :
    rest.bytes.length < stream.bytes.length := by
  fun_induction readFragments maxLen record stream with
  | case6 record stream header body hheader word len hmax fragment after hbody hlast =>
    cases h
    have := Stream.readExact_length hheader
    have := Stream.readExact_length hbody
    omega
  | case7 record stream header body hheader word len hmax fragment after hbody hlast ih =>
    have := ih h
    have := Stream.readExact_length hheader
    have := Stream.readExact_length hbody
    omega
  | _ => cases h

end

/-- Record after record until the peer hangs up, as the connection loops read them. -/
def readRecords (maxLen : Nat) (stream : Stream) : Except ReadError (List (List UInt8)) :=
  match _hrecord : readRecord maxLen stream with
  | .error e => .error e
  | .ok none => .ok []
  | .ok (some (record, rest)) => (readRecords maxLen rest).map (record :: ·)
termination_by stream.bytes.length
decreasing_by exact readFragments_length _hrecord

section
variable {maxLen : Nat} {stream rest : Stream} {record : List UInt8}

theorem readRecords_of_none (h : readRecord maxLen stream = .ok none) :
    readRecords maxLen stream = .ok [] := by
  unfold readRecords
  split <;> rename_i heq <;> rw [h] at heq <;> cases heq

theorem readRecords_of_some (h : readRecord maxLen stream = .ok (some (record, rest))) :
    readRecords maxLen stream = (readRecords maxLen rest).map (record :: ·) := by
  rw [readRecords]
  split <;> rename_i heq <;> rw [h] at heq <;> cases heq
  rfl

/-- What is written as records is read as the same records. -/
theorem readRecords_written {records : List (List UInt8)}
    (hmax : ∀ record ∈ records, record.length ≤ maxLen)
    (hsize : ∀ record ∈ records, record.length ≤ 0x7FFFFFFF) :
    ∃ written, records.mapM writeRecord = some written ∧
      readRecords maxLen ⟨written.flatten, .eof⟩ = .ok records := by
  induction records with
  | nil => exact ⟨[], rfl, readRecords_of_none (readRecord_eof (by simp) rfl)⟩
  | cons record records ih =>
    rw [List.forall_mem_cons] at hmax hsize
    obtain ⟨written, hwritten, hread⟩ := ih hmax.2 hsize.2
    have hrecord : writeRecord record = some (fragment true record) :=
      if_neg (Nat.not_lt.mpr hsize.1)
    refine ⟨fragment true record :: written, ?_, ?_⟩
    · simp [List.mapM_cons, hrecord, hwritten]
    · have hone : readRecord maxLen ⟨fragment true record ++ written.flatten, .eof⟩ =
          .ok (some (record, ⟨written.flatten, .eof⟩)) := by
        rw [readRecord, readFragments_fragment (by omega), if_neg (by simpa using hmax.1),
          if_pos rfl, List.nil_append]
      rw [List.flatten_cons, readRecords_of_some hone, hread]
      rfl

end

/-- The end of the stream is told right: nothing comes back only at a record boundary, and a stream
that breaks off inside a record, however the record is split, is an error. -/
structure EndTold (maxLen : Nat) (bytes : List UInt8) : Prop where
  boundary : readRecord maxLen ⟨bytes, .eof⟩ = .ok none ↔ bytes = []
  broken : ∀ bodies final, (∀ body ∈ bodies, body.length < 2 ^ 31) → final.length < 2 ^ 31 →
    bytes <+: fragments bodies final → bytes ≠ [] → bytes ≠ fragments bodies final →
    ∃ e, readRecord maxLen ⟨bytes, .eof⟩ = .error e

theorem endTold_iff (maxLen : Nat) (bytes : List UInt8) :
    EndTold maxLen bytes ↔ ¬ (bytes ≠ [] ∧ OnlyEmptyFragments bytes) := by
  constructor
  · rintro ⟨hboundary, -⟩ ⟨hne, hempty⟩
    exact hne (hboundary.mp (readRecord_of_onlyEmptyFragments hempty))
  · intro hcond
    have hnone : readRecord maxLen ⟨bytes, .eof⟩ = .ok none → bytes = [] := fun h =>
      by_contra fun hne => hcond ⟨hne, (readFragments_none h).2⟩
    refine ⟨⟨hnone, ?_⟩, ?_⟩
    · rintro rfl
      exact readRecord_eof (by simp) rfl
    · intro bodies final hbodies hfinal hfront hne hne'
      cases hread : readRecord maxLen ⟨bytes, .eof⟩ with
      | error e => exact ⟨e, rfl⟩
      | ok result =>
        cases result with
        | none => exact absurd (hnone hread) hne
        | some result =>
          exact absurd hread (readFragments_fragments_cut hbodies hfinal hfront hne' result)

/-- Records come back as they were written, however they were split. The end of the stream is told
right except where all that is left is empty fragments and less than a header. -/
theorem records_survive_framing (maxLen : Nat) :
    (∀ bodies final rest ending, (∀ body ∈ bodies, body.length < 2 ^ 31) →
      final.length < 2 ^ 31 → bodies.flatten.length + final.length ≤ maxLen →
      readRecord maxLen ⟨fragments bodies final ++ rest, ending⟩ =
        .ok (some (bodies.flatten ++ final, ⟨rest, ending⟩))) ∧
    (∀ records, (∀ record ∈ records, record.length ≤ maxLen) →
      (∀ record ∈ records, record.length ≤ 0x7FFFFFFF) →
      ∃ written, records.mapM writeRecord = some written ∧
        readRecords maxLen ⟨written.flatten, .eof⟩ = .ok records) ∧
    ∀ bytes, EndTold maxLen bytes ↔ ¬ (bytes ≠ [] ∧ OnlyEmptyFragments bytes) := by
  refine ⟨?_, fun _ hmax hsize => readRecords_written hmax hsize, endTold_iff maxLen⟩
  intro bodies final rest ending hbodies hfinal hmax
  have hrecord : ([] : List UInt8).length + bodies.flatten.length + final.length ≤ maxLen := by
    rwa [List.length_nil, Nat.zero_add]
  simpa only [readRecord, List.nil_append] using readFragments_fragments hbodies hfinal hrecord

/-- Three bytes of a record's header, or a whole empty fragment that another has to follow, and then
the end of the stream: both pass for a hang-up between records. -/
theorem broken_record_taken_for_hang_up :
    (readRecord recordMax ⟨[0x80, 0, 0], .eof⟩ = .ok none ∧
      [0x80, 0, 0] <+: fragments [] [0x2A] ∧ [0x80, 0, 0] ≠ fragments [] [0x2A]) ∧
    (readRecord recordMax ⟨[0, 0, 0, 0], .eof⟩ = .ok none ∧
      [0, 0, 0, 0] <+: fragments [[]] [0x2A] ∧ [0, 0, 0, 0] ≠ fragments [[]] [0x2A]) := by
  refine ⟨⟨readRecord_eof (by decide) rfl, by decide, by decide⟩,
    ⟨readRecord_of_onlyEmptyFragments ⟨1, [], by decide, by decide⟩, by decide, by decide⟩⟩

end Ugpibd.Vxi11
