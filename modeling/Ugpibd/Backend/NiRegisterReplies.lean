import Ugpibd.Backend.NiOperations
import Ugpibd.Library.Chunks
import Ugpibd.Library.Panics

/-! The reply to a register read, as the adapter writes it and as the program takes it apart. Where the
end byte is looked for depends on the number of values alone: each chunk with its start byte takes four
bytes, the last one with what it is padded with. -/
namespace Ugpibd.Backend.NiUsbHs
open Ni (niusbRegisterReadDataStartId niusbRegisterReadDataEndId)
open Library

/-- The values three to a chunk, each chunk behind its start byte. -/
def registerChunks (values : List UInt8) : List UInt8 :=
  (chunks 3 values).flatMap (niusbRegisterReadDataStartId :: ·)

/-- A reply. Behind the end byte the adapter may send whatever it likes, and it may pad with anything. -/
structure RegisterReadReply where
  values : List UInt8
  padding : List UInt8
  rest : List UInt8
  short : padding.length < 4
  aligned : (registerChunks values ++ padding).length % 4 = 0

namespace RegisterReadReply

/-- Everything before the end byte. -/
def body (reply : RegisterReadReply) : List UInt8 := registerChunks reply.values ++ reply.padding

def encode (reply : RegisterReadReply) : List UInt8 :=
  reply.body ++ niusbRegisterReadDataEndId :: reply.rest

end RegisterReadReply

/-- The parser as it is written, with the operations that can panic: up to three values. -/
def pushValues (buf : List UInt8) (num : Nat) :
    Nat → Nat → List UInt8 → MayPanic RegisterReadFailure (Nat × List UInt8)
  | 0, i, out => pure (i, out)
  | left + 1, i, out =>
    if out.length = num then pure (i, out)
    else match buf[i]? with
      | none => throw (.error .truncated)
      | some b => do
        let i ← checkedAdd i 1
        pushValues buf num left i (out ++ [b])

def registerReadChunksChecked (buf : List UInt8) (num : Nat) :
    Nat → Nat → List UInt8 → MayPanic RegisterReadFailure (Nat × List UInt8)
  | 0, _, _ => throw .outOfFuel
  | fuel + 1, i, out =>
    if out.length < num then do
      if buf[i]? ≠ some niusbRegisterReadDataStartId then throw (.error (.missingStart i))
      let i ← checkedAdd i 1
      let (i, out) ← pushValues buf num 3 i out
      registerReadChunksChecked buf num fuel i out
    else pure (i, out)

def alignChecked : Nat → Nat → MayPanic RegisterReadFailure Nat
  | 0, _ => throw .outOfFuel
  | fuel + 1, i =>
    if i % 4 ≠ 0 then do
      let i ← checkedAdd i 1
      alignChecked fuel i
    else pure i

def parseRegisterReadResponseChecked (buf : Slice UInt8) (num : Nat) :
    MayPanic RegisterReadFailure (List UInt8) := do
  withCapacity num
  let (i, out) ← registerReadChunksChecked buf.items num (num + 1) 0 []
  let i ← alignChecked 4 i
  if buf.items[i]? ≠ some niusbRegisterReadDataEndId then throw (.error (.missingEnd i))
  pure out

variable {buf out values chunk rest : List UInt8} {i j num fuel left : Nat}

@[simp] theorem registerChunks_nil : registerChunks [] = [] := by simp [registerChunks, chunks]

theorem registerChunks_of_ne_nil (h : values ≠ []) :
    registerChunks values =
      niusbRegisterReadDataStartId :: values.take 3 ++ registerChunks (values.drop 3) := by
  rw [registerChunks, chunks_cons h (by decide), List.flatMap_cons, registerChunks]

/-- A chunk is full, or it is the last. -/
theorem registerChunks_append (hne : chunk ≠ []) (hlen : chunk.length ≤ 3)
    (hfull : chunk.length < 3 → rest = []) :
    registerChunks (chunk ++ rest) =
      niusbRegisterReadDataStartId :: chunk ++ registerChunks rest := by
  rw [registerChunks_of_ne_nil (by simp [hne])]
  rcases Nat.lt_or_eq_of_le hlen with hlast | hthree
  · rw [hfull hlast, List.append_nil, List.take_of_length_le hlen, List.drop_of_length_le hlen]
  · rw [List.take_left' hthree, List.drop_left' hthree]

theorem registerChunks_length (values : List UInt8) :
    (registerChunks values).length = values.length + (values.length + 2) / 3 := by
  induction hn : values.length using Nat.strong_induction_on generalizing values with
  | _ n ih =>
    cases values with
    | nil =>
      subst hn
      rw [registerChunks_nil]
      rfl
    | cons value values =>
      have hrest : ((value :: values).drop 3).length = n - 3 := by rw [List.length_drop, hn]
      have hpos : 0 < n := by
        rw [← hn]
        exact Nat.succ_pos _
      rw [registerChunks_of_ne_nil (List.cons_ne_nil _ _), List.length_append, List.length_cons,
        List.length_take, ih (n - 3) (by omega) _ hrest, hn]
      omega

/-- The end byte is looked for behind four bytes for every chunk. -/
theorem align_registerChunks (values : List UInt8) :
    ((registerChunks values).length + 3) / 4 * 4 = 4 * ((values.length + 2) / 3) := by
  rw [registerChunks_length]
  omega

/-- No values take no chunks. -/
theorem no_values_iff : ((.ok ([], i) : Except RegisterReadFailure (List UInt8 × Nat)) = .ok (out, j)) ↔
    out.length = 0 ∧ registerChunks out <+: buf.drop i ∧ j = i + (registerChunks out).length := by
  simp only [Except.ok.injEq, Prod.mk.injEq, List.length_eq_zero_iff]
  constructor
  · rintro ⟨rfl, rfl⟩
    simp
  · rintro ⟨rfl, -, rfl⟩
    simp

/-- One chunk. -/
theorem registerReadChunks_succ_iff (hnum : num ≠ 0) :
    registerReadChunks buf (fuel + 1) i num = .ok (out, j) ↔
      ∃ chunk rest, chunk.length = min num 3 ∧ out = chunk ++ rest ∧
        buf.drop i = niusbRegisterReadDataStartId :: chunk ++ buf.drop (i + 1 + min num 3) ∧
        registerReadChunks buf fuel (i + 1 + min num 3) (num - min num 3) = .ok (rest, j) := by
  have hdrop : buf.drop (i + 1 + min num 3) = (buf.drop (i + 1)).drop (min num 3) :=
    List.drop_drop.symm
  rw [registerReadChunks, if_neg hnum]
  constructor
  · intro h
    split at h
    · cases h
    rename_i hstart
    obtain ⟨hi, hbyte⟩ := List.getElem?_eq_some_iff.mp (not_not.mp hstart)
    dsimp only at h
    split at h
    · cases h
    rename_i hshort
    cases hrest : registerReadChunks buf fuel (i + 1 + min num 3) (num - min num 3) with
    | error e =>
      rw [hrest] at h
      cases h
    | ok result =>
      rw [hrest] at h
      cases h
      refine ⟨_, result.1, ?_, rfl, ?_, rfl⟩
      · exact Nat.le_antisymm (List.length_take_le _ _) (Nat.le_of_not_lt hshort)
      · rw [hdrop, List.cons_append, List.take_append_drop, List.drop_eq_getElem_cons hi, hbyte]
  · rintro ⟨chunk, rest, hlen, rfl, hbuf, hrest⟩
    have hstart : buf[i]? = some niusbRegisterReadDataStartId := by
      rw [← List.head?_drop, hbuf, List.cons_append, List.head?_cons]
    have hchunk : (buf.drop (i + 1)).take (min num 3) = chunk := by
      rw [← List.drop_drop, hbuf, List.cons_append, List.drop_one, List.tail_cons,
        List.take_left' hlen]
    rw [if_neg (not_not.mpr hstart)]
    dsimp only
    rw [hchunk, if_neg (by omega), hrest]
    rfl

/-- The loop has so many values exactly when they stand there in chunks, and has then come to the end
of the chunks. -/
theorem registerReadChunks_iff (hfuel : num ≤ fuel) :
    registerReadChunks buf fuel i num = .ok (out, j) ↔
      out.length = num ∧ registerChunks out <+: buf.drop i ∧
        j = i + (registerChunks out).length := by
  induction fuel generalizing i num out j with
  | zero =>
    obtain rfl := Nat.le_zero.mp hfuel
    exact no_values_iff
  | succ fuel ih =>
    by_cases hnum : num = 0
    · subst hnum
      exact no_values_iff
    rw [registerReadChunks_succ_iff hnum]
    have hless : num - min num 3 ≤ fuel := by omega
    constructor
    · rintro ⟨chunk, rest, hlen, rfl, hbuf, hrest⟩
      obtain ⟨hcount, hstanding, rfl⟩ := (ih hless).mp hrest
      have hchunks : registerChunks (chunk ++ rest) =
          niusbRegisterReadDataStartId :: chunk ++ registerChunks rest := by
        refine registerChunks_append ?_ (by omega) fun hlast => ?_
        · exact List.ne_nil_of_length_pos (by omega)
        · exact List.eq_nil_of_length_eq_zero (by omega)
      refine ⟨by rw [List.length_append]; omega, ?_, ?_⟩
      · rw [hchunks, hbuf]
        exact (List.prefix_append_right_inj _).mpr hstanding
      · rw [hchunks, List.length_append, List.length_cons]
        omega
    · rintro ⟨rfl, hstanding, rfl⟩
      have hne : out ≠ [] := List.ne_nil_of_length_pos (Nat.pos_of_ne_zero hnum)
      have htake : (out.take 3).length = min out.length 3 := by
        rw [List.length_take, Nat.min_comm]
      rw [registerChunks_of_ne_nil hne] at hstanding ⊢
      obtain ⟨after, hafter⟩ := hstanding
      have hdrop : buf.drop (i + 1 + min out.length 3) = registerChunks (out.drop 3) ++ after := by
        rw [Nat.add_assoc, ← List.drop_drop, ← hafter, List.append_assoc]
        exact List.drop_left' (by rw [List.length_cons, htake]; omega)
      refine ⟨out.take 3, out.drop 3, htake, (List.take_append_drop 3 out).symm, ?_, ?_⟩
      · rw [hdrop, ← hafter, List.append_assoc]
      · refine (ih hless).mpr ⟨by rw [List.length_drop]; omega, ?_, ?_⟩
        · rw [hdrop]
          exact List.prefix_append _ _
        · rw [List.length_append, List.length_cons, htake]
          omega

/-- The values stand there in chunks, and the end byte is where so many chunks end. -/
theorem parseRegisterReadResponse_eq_ok :
    parseRegisterReadResponse buf num = .ok out ↔
      out.length = num ∧ registerChunks out <+: buf ∧
        buf[4 * ((num + 2) / 3)]? = some niusbRegisterReadDataEndId := by
  unfold parseRegisterReadResponse
  constructor
  · intro h
    cases hchunks : registerReadChunks buf num 0 num with
    | error e =>
      rw [hchunks] at h
      cases h
    | ok result =>
      obtain ⟨values, j⟩ := result
      obtain ⟨rfl, hstanding, rfl⟩ := (registerReadChunks_iff (Nat.le_refl num)).mp hchunks
      rw [hchunks] at h
      change (if buf[(0 + (registerChunks values).length + 3) / 4 * 4]? ≠
        some niusbRegisterReadDataEndId then _ else _) = _ at h
      rw [Nat.zero_add, align_registerChunks] at h
      split at h
      · cases h
      · rename_i hend
        cases h
        exact ⟨rfl, hstanding, not_not.mp hend⟩
  · rintro ⟨rfl, hstanding, hend⟩
    have hchunks : registerReadChunks buf out.length 0 out.length =
        .ok (out, 0 + (registerChunks out).length) :=
      (registerReadChunks_iff (Nat.le_refl _)).mpr ⟨rfl, hstanding, rfl⟩
    rw [hchunks]
    change (if buf[(0 + (registerChunks out).length + 3) / 4 * 4]? ≠
      some niusbRegisterReadDataEndId then _ else _) = _
    rw [Nat.zero_add, align_registerChunks, if_neg (not_not.mpr hend)]
    rfl

namespace RegisterReadReply

theorem body_length (reply : RegisterReadReply) :
    reply.body.length = 4 * ((reply.values.length + 2) / 3) := by
  have haligned := reply.aligned
  have hshort := reply.short
  rw [← align_registerChunks, body, List.length_append]
  rw [List.length_append] at haligned
  omega

/-- Any values can be replied, with whatever is sent behind the end byte. -/
theorem exists_of_values (values rest : List UInt8) :
    ∃ reply : RegisterReadReply, reply.values = values ∧ reply.rest = rest := by
  have hlen := align_registerChunks values
  let pad := 4 * ((values.length + 2) / 3) - (registerChunks values).length
  refine ⟨⟨values, List.replicate pad 0, rest, ?_, ?_⟩, rfl, rfl⟩
  · rw [List.length_replicate]
    omega
  · rw [List.length_append, List.length_replicate]
    omega

/-- Where the end byte is, the reply that has been accepted is one with these values. -/
theorem exists_of_accepted (hstanding : registerChunks out <+: buf)
    (hend : buf[4 * ((out.length + 2) / 3)]? = some niusbRegisterReadDataEndId) :
    ∃ reply : RegisterReadReply, reply.values = out ∧ reply.encode = buf := by
  obtain ⟨after, rfl⟩ := hstanding
  have hlen := align_registerChunks out
  obtain ⟨pad, hpad⟩ : ∃ pad, 4 * ((out.length + 2) / 3) = (registerChunks out).length + pad :=
    ⟨_, (Nat.add_sub_of_le (by omega)).symm⟩
  rw [hpad, List.getElem?_append_right (Nat.le_add_right _ _), Nat.add_sub_cancel_left] at hend
  obtain ⟨hin, hbyte⟩ := List.getElem?_eq_some_iff.mp hend
  have htake : (after.take pad).length = pad := List.length_take_of_le hin.le
  refine ⟨⟨out, after.take pad, after.drop (pad + 1), by omega, ?_⟩, rfl, ?_⟩
  · rw [List.length_append, htake]
    omega
  · rw [encode, body, List.append_assoc, ← hbyte, ← List.drop_eq_getElem_cons hin,
      List.take_append_drop]

end RegisterReadReply

/-- What the parser accepts are the adapter's replies with so many values. -/
theorem parseRegisterReadResponse_iff :
    parseRegisterReadResponse buf num = .ok out ↔
      ∃ reply : RegisterReadReply, reply.values = out ∧ out.length = num ∧ reply.encode = buf := by
  rw [parseRegisterReadResponse_eq_ok]
  constructor
  · rintro ⟨rfl, hstanding, hend⟩
    obtain ⟨reply, hvalues, hencode⟩ := RegisterReadReply.exists_of_accepted hstanding hend
    exact ⟨reply, hvalues, rfl, hencode⟩
  · rintro ⟨reply, rfl, rfl, rfl⟩
    refine ⟨rfl, ?_, ?_⟩
    · rw [RegisterReadReply.encode, RegisterReadReply.body, List.append_assoc]
      exact List.prefix_append _ _
    · rw [← reply.body_length, RegisterReadReply.encode, List.getElem?_append_right (Nat.le_refl _),
        Nat.sub_self, List.getElem?_cons_zero]

/-- A reply cut before its end byte is too short for any with that many values. -/
theorem parse_cut (reply : RegisterReadReply) {k : Nat} (hk : k ≤ reply.body.length) :
    parseRegisterReadResponse (reply.encode.take k) reply.values.length ≠ .ok out := by
  intro h
  obtain ⟨other, rfl, hlen, hencode⟩ := parseRegisterReadResponse_iff.mp h
  have hcut : (reply.encode.take k).length ≤ k := List.length_take_le _ _
  rw [← hencode, RegisterReadReply.encode, List.length_append, List.length_cons, other.body_length,
    hlen, ← reply.body_length] at hcut
  omega

/-- Up to three values are taken, or as many as are missing. -/
theorem pushValues_eq (hbuf : buf.length < 2 ^ 63) (hout : out.length ≤ num) :
    pushValues buf num left i out =
      if (buf.drop i).length < min (num - out.length) left then .error (.error .truncated)
      else .ok (i + min (num - out.length) left,
        out ++ (buf.drop i).take (min (num - out.length) left)) := by
  induction left generalizing i out with
  | zero => simp [pushValues, pure, Except.pure]
  | succ left ih =>
    rw [pushValues]
    by_cases hfull : out.length = num
    · simp [hfull, pure, Except.pure]
    · have hmin : min (num - out.length) (left + 1) = min (num - (out.length + 1)) left + 1 := by
        omega
      rw [if_neg hfull, hmin]
      cases hbyte : buf[i]? with
      | none =>
        have hend : (buf.drop i).length = 0 := by
          rw [List.length_drop]
          exact Nat.sub_eq_zero_of_le (List.getElem?_eq_none_iff.mp hbyte)
        rw [hend, if_pos (Nat.succ_pos _)]
        rfl
      | some b =>
        obtain ⟨hi, hget⟩ := List.getElem?_eq_some_iff.mp hbyte
        have hnext : (out ++ [b]).length ≤ num := by
          rw [List.length_append, List.length_singleton]
          omega
        dsimp only
        rw [checkedAdd_eq (by omega)]
        change pushValues buf num left (i + 1) (out ++ [b]) = _
        rw [ih hnext, List.length_append, List.length_singleton, List.drop_eq_getElem_cons hi, hget,
          List.length_cons, List.take_succ_cons]
        simp only [Nat.succ_lt_succ_iff, List.append_assoc, List.singleton_append]
        congr 3
        omega

/-- The loop returns what the recursion over the missing values returns, behind those it has. -/
theorem registerReadChunksChecked_eq {fuel' : Nat} (hbuf : buf.length < 2 ^ 63)
    (hout : out.length ≤ num) (hfuel : num - out.length < fuel) (hfuel' : num - out.length ≤ fuel') :
    registerReadChunksChecked buf num fuel i out =
      reported ((fun result => (result.2, out ++ result.1)) <$>
        registerReadChunks buf fuel' i (num - out.length)) := by
  -- with every chunk at least one value is no longer missing
  induction fuel generalizing i out fuel' with
  | zero => exact absurd hfuel (Nat.not_lt_zero _)
  | succ fuel ih =>
    rw [registerReadChunksChecked]
    by_cases hless : out.length < num
    · have hmissing : num - out.length ≠ 0 := by omega
      obtain ⟨fuel', rfl⟩ := Nat.exists_eq_add_of_le' (show 1 ≤ fuel' by omega)
      rw [if_pos hless, registerReadChunks, if_neg hmissing]
      by_cases hstart : buf[i]? ≠ some niusbRegisterReadDataStartId
      · rw [if_pos hstart, if_pos hstart]
        rfl
      · obtain ⟨hi, -⟩ := List.getElem?_eq_some_iff.mp (not_not.mp hstart)
        rw [if_neg hstart, if_neg hstart, checkedAdd_eq (by omega)]
        change (pushValues buf num 3 (i + 1) out >>= fun pushed =>
          registerReadChunksChecked buf num fuel pushed.1 pushed.2) = _
        rw [pushValues_eq hbuf hout]
        dsimp only
        by_cases hshort : (buf.drop (i + 1)).length < min (num - out.length) 3
        · have hcut : ((buf.drop (i + 1)).take (min (num - out.length) 3)).length <
              min (num - out.length) 3 := (List.length_take_le' _ _).trans_lt hshort
          rw [if_pos hshort, if_pos hcut]
          rfl
        · have hall : ((buf.drop (i + 1)).take (min (num - out.length) 3)).length =
              min (num - out.length) 3 := List.length_take_of_le (Nat.le_of_not_lt hshort)
          have htaken : (out ++ (buf.drop (i + 1)).take (min (num - out.length) 3)).length =
              out.length + min (num - out.length) 3 := by rw [List.length_append, hall]
          have hloop := ih (i := i + 1 + min (num - out.length) 3)
            (htaken.trans_le (by omega)) (by omega) (show _ ≤ fuel' by omega)
          rw [htaken, Nat.sub_add_eq] at hloop
          rw [if_neg hshort, if_neg (Nat.not_lt_of_ge hall.ge)]
          refine hloop.trans ?_
          cases registerReadChunks buf fuel' (i + 1 + min (num - out.length) 3)
            (num - out.length - min (num - out.length) 3) with
          | error e => rfl
          | ok result =>
            exact congrArg (fun values => Except.ok (result.2, values)) (List.append_assoc ..)
    · have hnone : num - out.length = 0 := by omega
      have hstop : registerReadChunks buf fuel' i 0 = .ok ([], i) := by cases fuel' <;> rfl
      rw [if_neg hless, hnone, hstop]
      simp [pure, Except.pure]

theorem alignChecked_eq (hi : i + fuel < 2 ^ 64) (hfuel : (4 - i % 4) % 4 < fuel) :
    alignChecked fuel i = .ok ((i + 3) / 4 * 4) := by
  induction fuel generalizing i with
  | zero => exact absurd hfuel (Nat.not_lt_zero _)
  | succ fuel ih =>
    rw [alignChecked]
    by_cases haligned : i % 4 ≠ 0
    · rw [if_pos haligned, checkedAdd_eq (by omega)]
      change alignChecked fuel (i + 1) = _
      rw [ih (by omega) (by omega)]
      congr 1
      omega
    · have hsame : (i + 3) / 4 * 4 = i := by omega
      rw [if_neg haligned, hsame]
      rfl

/-- No panic short of a count no vector can have room for. -/
theorem parseRegisterReadResponseChecked_eq (buf : Slice UInt8) (hnum : num < 2 ^ 63) :
    parseRegisterReadResponseChecked buf num =
      reported (parseRegisterReadResponse buf.items num) := by
  have hloop := registerReadChunksChecked_eq (i := 0) buf.bound
    (show ([] : List UInt8).length ≤ num from Nat.zero_le num) (Nat.lt_succ_self num) (Nat.le_refl num)
  unfold parseRegisterReadResponseChecked parseRegisterReadResponse
  rw [withCapacity_eq hnum]
  change (registerReadChunksChecked buf.items num (num + 1) 0 [] >>= _) = _
  rw [hloop, List.length_nil, Nat.sub_zero]
  cases hchunks : registerReadChunks buf.items num 0 num with
  | error e => rfl
  | ok result =>
    obtain ⟨values, j⟩ := result
    obtain ⟨rfl, hstanding, rfl⟩ := (registerReadChunks_iff (Nat.le_refl num)).mp hchunks
    have hin : (registerChunks values).length ≤ buf.items.length := hstanding.length_le
    have hbuf := buf.bound
    change (alignChecked 4 (0 + (registerChunks values).length) >>= fun i => _) = _
    rw [alignChecked_eq (by omega) (by omega)]
    change (if _ then _ else _) = reported (if _ then _ else _)
    split
    · rfl
    · rfl

end Ugpibd.Backend.NiUsbHs
