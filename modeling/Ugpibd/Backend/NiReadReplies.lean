import Ugpibd.Backend.NiData
import Ugpibd.Library.BigEndian
import Ugpibd.Library.Panics

/-! The reply to a data read, as the adapter writes it and as the program takes it apart: blocks of
two sizes, a status block and the number of bytes the last block really holds. -/
namespace Ugpibd.Backend.NiUsbHs
open Ni (niusbIbrdDataId niusbIbrdExtendedDataId niusbIbrdStatusId)
open Library

/-- A block of 15 bytes, or one of 30 behind a zero byte. -/
structure DataBlock where
  extended : Bool
  bytes : List UInt8
  size : bytes.length = if extended then 30 else 15

namespace DataBlock

def encode (block : DataBlock) : List UInt8 :=
  if block.extended then niusbIbrdExtendedDataId :: 0 :: block.bytes
  else niusbIbrdDataId :: block.bytes

end DataBlock

/-- A reply without an error. `count` is how much of the last block is data. -/
structure DataReadReply where
  blocks : List DataBlock
  ibsta : UInt16
  residual : UInt8 × UInt8
  unused : UInt8 × UInt8
  reserved : UInt8
  count : UInt8
  rest : List UInt8
  count_le : ∀ last ∈ blocks.getLast?, count.toNat ≤ last.bytes.length

namespace DataReadReply
variable (reply : DataReadReply)

/-- From the status block on. -/
def encodeStatus : List UInt8 :=
  [niusbIbrdStatusId, (reply.ibsta >>> 8).toUInt8, reply.ibsta.toUInt8, 0,
    reply.residual.1, reply.residual.2, reply.unused.1, reply.unused.2,
    reply.reserved, reply.count] ++ reply.rest

def encode : List UInt8 := reply.blocks.flatMap (·.encode) ++ reply.encodeStatus

/-- Everything in the blocks, what stands behind the data in the last one included. -/
def received : List UInt8 := reply.blocks.flatMap (·.bytes)

/-- The bytes of the blocks before the last, and the first `count` of the last. -/
def payload : List UInt8 :=
  match reply.blocks.getLast? with
  | none => []
  | some last => reply.blocks.dropLast.flatMap (·.bytes) ++ last.bytes.take reply.count.toNat

def ended : Bool := reply.ibsta &&& ibstaEnd != 0

/-- How many bytes the parser takes to be data: it gives every block the size of the last. -/
def assumedLen : Nat :=
  match reply.blocks.getLast? with
  | none => 0
  | some last => (reply.blocks.length - 1) * last.bytes.length + reply.count.toNat

end DataReadReply

/-- The parser as it is written, with the operations that can panic. -/
def parseStatusBlockChecked (buf : List UInt8) : MayPanic Nat StatusBlock := do
  if buf.length < 8 then throw (.error buf.length)
  let ibsta := (← index buf 1).toUInt16 <<< 8 ||| (← index buf 2).toUInt16
  let rawCount := (← index buf 4).toUInt16 ||| (← index buf 5).toUInt16 <<< 8
  pure {
    id := ← index buf 0
    ibsta
    errorCode := ← index buf 3
    count := ~~~rawCount + 1 }

/-- The bytes of one block. -/
def pushBytes (buf : List UInt8) :
    Nat → Nat → List UInt8 → MayPanic ReadResponseFailure (Nat × List UInt8)
  | 0, i, data => pure (i, data)
  | left + 1, i, data =>
    match buf[i]? with
    | none => throw (.error .dataBlockTruncated)
    | some b => do
      let i ← checkedAdd i 1
      pushBytes buf left i (data ++ [b])

def Blocks.takeChecked (blocks : Blocks) (buf : List UInt8) (i blockLen : Nat) :
    MayPanic ReadResponseFailure Blocks := do
  let (i, data) ← pushBytes buf blockLen i blocks.data
  let numBlocks ← checkedAdd blocks.numBlocks 1
  pure { i, data, numBlocks, blockLen }

def readBlocksChecked (buf : List UInt8) : Nat → Blocks → MayPanic ReadResponseFailure Blocks
  | 0, _ => throw .outOfFuel
  | fuel + 1, blocks =>
    if buf[blocks.i]? = some niusbIbrdDataId then do
      let i ← checkedAdd blocks.i 1
      readBlocksChecked buf fuel (← blocks.takeChecked buf i 15)
    else if buf[blocks.i]? = some niusbIbrdExtendedDataId then do
      let i ← checkedAdd blocks.i 1
      if buf[i]? ≠ some 0 then throw (.error (.extendedBlock i))
      let i ← checkedAdd i 1
      readBlocksChecked buf fuel (← blocks.takeChecked buf i 30)
    else pure blocks

/-- The error codes after which a read keeps what it has, and the others. -/
def checkErrorCode (code : UInt8) : Except ReadResponseFailure Unit :=
  match code with
  | 0 | 1 | 10 => .ok ()
  | 2 => .error .atnState
  | 3 => .error .addressing
  | 4 => .error .eosMode
  | 5 => .error .noBus
  | 8 => .error .noListener
  | code => .error (.errorCode code)

/-- From the end of the blocks over the status block and a reserved byte to the length byte. -/
def actualLenChecked (buf : List UInt8) (blocks : Blocks) : MayPanic ReadResponseFailure Nat := do
  let i ← checkedAdd blocks.i 8
  let i ← checkedAdd i 1
  if blocks.numBlocks > 0 then
    match buf[i]? with
    | none => throw (.error .missingLengthByte)
    | some tail => do
      let before ← checkedMul (← checkedSub blocks.numBlocks 1) blocks.blockLen
      checkedAdd before tail.toNat
  else pure 0

def parseDataReadResponseChecked (buf : Slice UInt8) (maxLen : Nat) :
    MayPanic ReadResponseFailure (List UInt8 × Bool) := do
  let buf := buf.items
  let blocks ← readBlocksChecked buf (buf.length + 1) {}
  let status ← (parseStatusBlockChecked (buf.drop blocks.i)).mapError
    (Stop.map .statusBlockTooShort)
  if status.id ≠ niusbIbrdStatusId then throw (.error (.badStatusId status.id))
  reported (checkErrorCode status.errorCode)
  let actual ← actualLenChecked buf blocks
  pure (blocks.data.take (min actual maxLen), status.ibsta &&& ibstaEnd != 0)

section checked
variable {buf : List UInt8} {blocks blocks' : Blocks} {i blockLen fuel : Nat}

theorem parseStatusBlockChecked_eq (buf : List UInt8) :
    parseStatusBlockChecked buf = reported (parseStatusBlock buf) := by
  unfold parseStatusBlockChecked parseStatusBlock
  split
  · rfl
  · rename_i hlen
    have hindex : ∀ i, i < 8 → (index buf i : MayPanic Nat UInt8) = .ok (buf.getD i 0) :=
      fun i hi => index_eq (by omega) 0
    rw [hindex 0 (by decide), hindex 1 (by decide), hindex 2 (by decide), hindex 3 (by decide),
      hindex 4 (by decide), hindex 5 (by decide)]
    rfl

/-- A block is taken whole, or the reply is cut. -/
theorem pushBytes_eq (hbuf : buf.length < 2 ^ 63) (left : Nat) {i : Nat} (data : List UInt8)
    (hi : i ≤ buf.length) : pushBytes buf left i data =
      if i + left ≤ buf.length then .ok (i + left, data ++ (buf.drop i).take left)
      else .error (.error .dataBlockTruncated) := by
  induction left generalizing i data with
  | zero => simp [pushBytes, hi, pure, Except.pure]
  | succ left ih =>
    rw [pushBytes]
    split
    · rename_i hnone
      have hend := List.getElem?_eq_none_iff.mp hnone
      rw [if_neg (by omega)]
      rfl
    · rename_i b hb
      obtain ⟨hlt, rfl⟩ := List.getElem?_eq_some_iff.mp hb
      have hstep : i + 1 + left = i + (left + 1) := by omega
      rw [checkedAdd_eq (by omega)]
      refine (ih (data ++ [buf[i]]) (i := i + 1) hlt).trans ?_
      rw [hstep, List.append_assoc, List.drop_eq_getElem_cons hlt, List.take_succ_cons]
      rfl

/-- Where the loop over the blocks can be: in the reply, with 16 bytes at least for each block. -/
structure Blocks.Within (blocks : Blocks) (buf : List UInt8) : Prop where
  index : blocks.i ≤ buf.length
  taken : 16 * blocks.numBlocks ≤ blocks.i
  size : blocks.blockLen ≤ 30

theorem Blocks.take_within (hwithin : blocks.Within buf) (hi : blocks.i + 1 ≤ i)
    (hlow : 15 ≤ blockLen) (hhigh : blockLen ≤ 30)
    (h : blocks.take buf i blockLen = .ok blocks') :
    blocks'.Within buf ∧ blocks.i + 16 ≤ blocks'.i := by
  have htaken := hwithin.taken
  rw [Blocks.take] at h
  split at h
  · cases h
    exact ⟨⟨by assumption, by dsimp only; omega, hhigh⟩, by dsimp only; omega⟩
  · cases h

theorem Blocks.takeChecked_eq (hbuf : buf.length < 2 ^ 63) (hwithin : blocks.Within buf)
    (hi : i ≤ buf.length) :
    blocks.takeChecked buf i blockLen = reported (blocks.take buf i blockLen) := by
  have hindex := hwithin.index
  have htaken := hwithin.taken
  rw [Blocks.takeChecked, Blocks.take, pushBytes_eq hbuf blockLen blocks.data hi]
  split
  · rw [checkedAdd_eq (by omega)]
    rfl
  · rfl

theorem readBlocks_data (hid : buf[blocks.i]? = some niusbIbrdDataId) :
    readBlocks buf (fuel + 1) blocks =
      blocks.take buf (blocks.i + 1) 15 >>= readBlocks buf fuel := by
  rw [readBlocks, if_pos hid]

theorem readBlocks_extended (hid : buf[blocks.i]? = some niusbIbrdExtendedDataId) :
    readBlocks buf (fuel + 1) blocks =
      if buf[blocks.i + 1]? = some 0 then blocks.take buf (blocks.i + 2) 30 >>= readBlocks buf fuel
      else .error (.extendedBlock (blocks.i + 1)) := by
  have hne : ¬buf[blocks.i]? = some niusbIbrdDataId := by
    rw [hid]
    decide
  rw [readBlocks, if_neg hne, if_pos hid]
  by_cases hzero : buf[blocks.i + 1]? = some 0
  · rw [if_neg (not_not_intro hzero), if_pos hzero]
  · rw [if_pos hzero, if_neg hzero]
    rfl

theorem readBlocks_done (hdata : buf[blocks.i]? ≠ some niusbIbrdDataId)
    (hextended : buf[blocks.i]? ≠ some niusbIbrdExtendedDataId) :
    readBlocks buf fuel blocks = .ok blocks := by
  cases fuel with
  | zero => rfl
  | succ fuel => rw [readBlocks, if_neg hdata, if_neg hextended]

theorem readBlocks_within (hwithin : blocks.Within buf)
    (h : readBlocks buf fuel blocks = .ok blocks') : blocks'.Within buf := by
  induction fuel generalizing blocks with
  | zero =>
    cases h
    exact hwithin
  | succ fuel ih =>
    have hstep : ∀ {i blockLen : Nat}, blocks.i + 1 ≤ i → 15 ≤ blockLen → blockLen ≤ 30 →
        (blocks.take buf i blockLen >>= readBlocks buf fuel) = .ok blocks' →
        blocks'.Within buf := by
      intro i blockLen hi hlow hhigh h
      cases hnext : blocks.take buf i blockLen with
      | error e =>
        rw [hnext] at h
        cases h
      | ok next =>
        rw [hnext] at h
        exact ih (Blocks.take_within hwithin hi hlow hhigh hnext).1 h
    by_cases hdata : buf[blocks.i]? = some niusbIbrdDataId
    · rw [readBlocks_data hdata] at h
      exact hstep (Nat.le_refl _) (by decide) (by decide) h
    by_cases hextended : buf[blocks.i]? = some niusbIbrdExtendedDataId
    · rw [readBlocks_extended hextended] at h
      split_ifs at h
      exact hstep (Nat.le_succ _) (by decide) (by decide) h
    · rw [readBlocks_done hdata hextended] at h
      cases h
      exact hwithin

/-- The loop ends, without a panic, where the loop over ordinary numbers does. -/
theorem readBlocksChecked_eq (hbuf : buf.length < 2 ^ 63) (fuel : Nat) {blocks : Blocks}
    (hwithin : blocks.Within buf) (hfuel : buf.length ≤ blocks.i + 16 * fuel) :
    readBlocksChecked buf (fuel + 1) blocks = reported (readBlocks buf fuel blocks) := by
  have hindex := hwithin.index
  induction fuel generalizing blocks with
  | zero =>
    have hend : buf[blocks.i]? = none := List.getElem?_eq_none_iff.mpr (by omega)
    simp [readBlocksChecked, readBlocks, hend, pure, Except.pure]
  | succ fuel ih =>
    have hstep : ∀ {i blockLen : Nat}, blocks.i + 1 ≤ i → i ≤ buf.length → 15 ≤ blockLen →
        blockLen ≤ 30 →
        (blocks.takeChecked buf i blockLen >>= readBlocksChecked buf (fuel + 1)) =
          reported (blocks.take buf i blockLen >>= readBlocks buf fuel) := by
      intro i blockLen hi hle hlow hhigh
      rw [Blocks.takeChecked_eq hbuf hwithin hle, reported_bind]
      cases hnext : blocks.take buf i blockLen with
      | error e => rfl
      | ok next =>
        obtain ⟨hnext, hmoved⟩ := Blocks.take_within hwithin hi hlow hhigh hnext
        exact ih hnext (by omega) hnext.index
    rw [readBlocksChecked]
    by_cases hdata : buf[blocks.i]? = some niusbIbrdDataId
    · obtain ⟨hlt, -⟩ := List.getElem?_eq_some_iff.mp hdata
      rw [if_pos hdata, readBlocks_data hdata, checkedAdd_eq (by omega)]
      exact hstep (Nat.le_refl _) hlt (by decide) (by decide)
    by_cases hextended : buf[blocks.i]? = some niusbIbrdExtendedDataId
    · obtain ⟨hlt, -⟩ := List.getElem?_eq_some_iff.mp hextended
      rw [if_neg hdata, if_pos hextended, readBlocks_extended hextended, checkedAdd_eq (by omega)]
      change (if _ then _ else _) = _
      by_cases hzero : buf[blocks.i + 1]? = some 0
      · obtain ⟨hlt', -⟩ := List.getElem?_eq_some_iff.mp hzero
        rw [if_neg (not_not_intro hzero), if_pos hzero, checkedAdd_eq (by omega)]
        exact hstep (Nat.le_succ _) hlt' (by decide) (by decide)
      · rw [if_pos hzero, if_neg hzero]
        rfl
    · rw [if_neg hdata, if_neg hextended, readBlocks_done hdata hextended]
      rfl

theorem blocks_within_start (buf : List UInt8) : ({} : Blocks).Within buf :=
  ⟨Nat.zero_le _, Nat.le_refl _, by decide⟩

def actualLen (buf : List UInt8) (blocks : Blocks) : Except ReadResponseFailure Nat :=
  if blocks.numBlocks > 0 then
    match buf[blocks.i + 9]? with
    | none => .error .missingLengthByte
    | some tail => .ok ((blocks.numBlocks - 1) * blocks.blockLen + tail.toNat)
  else .ok 0

theorem actualLen_bind {α : Type} (finish : Nat → Except ReadResponseFailure α) :
    (if blocks.numBlocks > 0 then
      match buf[blocks.i + 9]? with
      | some tail => pure ((blocks.numBlocks - 1) * blocks.blockLen + tail.toNat) >>= finish
      | none => throw .missingLengthByte >>= finish
    else pure 0 >>= finish) = actualLen buf blocks >>= finish := by
  rw [actualLen]
  split_ifs
  · cases buf[blocks.i + 9]? <;> rfl
  · rfl

theorem checkErrorCode_bind {α : Type} (code : UInt8)
    (next : Unit → Except ReadResponseFailure α) :
    (match code with
    | 0 | 1 | 10 => pure () >>= next
    | 2 => throw .atnState >>= next
    | 3 => throw .addressing >>= next
    | 4 => throw .eosMode >>= next
    | 5 => throw .noBus >>= next
    | 8 => throw .noListener >>= next
    | code => throw (.errorCode code) >>= next) = checkErrorCode code >>= next := by
  fun_cases checkErrorCode code with
  | case9 => split <;> first | rfl | contradiction
  | _ => rfl

/-- The parser, step by step. -/
theorem parseDataReadResponse_eq (buf : List UInt8) (maxLen : Nat) :
    parseDataReadResponse buf maxLen = (do
      let blocks ← readBlocks buf buf.length {}
      let status ← (parseStatusBlock (buf.drop blocks.i)).mapError .statusBlockTooShort
      if status.id ≠ niusbIbrdStatusId then .error (.badStatusId status.id)
      else do
        checkErrorCode status.errorCode
        let actual ← actualLen buf blocks
        pure (blocks.data.take (min actual maxLen), status.ibsta &&& ibstaEnd != 0)) := by
  unfold parseDataReadResponse
  refine bind_congr fun blocks => bind_congr fun status => ?_
  by_cases hid : status.id ≠ niusbIbrdStatusId
  · rw [if_pos hid, if_pos hid]
    rfl
  · rw [if_neg hid, if_neg hid]
    exact (checkErrorCode_bind status.errorCode _).trans (bind_congr fun _ => actualLen_bind _)

theorem actualLenChecked_eq {buf : List UInt8} (hbuf : buf.length < 2 ^ 63)
    (hwithin : blocks.Within buf) : actualLenChecked buf blocks = reported (actualLen buf blocks) := by
  have hindex := hwithin.index
  have htaken := hwithin.taken
  have hsize : (blocks.numBlocks - 1) * blocks.blockLen ≤ 2 ^ 59 * 30 :=
    Nat.mul_le_mul (by omega) hwithin.size
  rw [actualLenChecked, actualLen, checkedAdd_eq (by omega)]
  change (checkedAdd (blocks.i + 8) 1 >>= _) = _
  rw [checkedAdd_eq (by omega)]
  change (if _ then _ else _) = _
  split_ifs with hnum
  · change (match buf[blocks.i + 9]? with | none => _ | some tail => _) = _
    cases hbyte : buf[blocks.i + 9]? with
    | none => rfl
    | some tail =>
      have htail := tail.toNat_lt
      dsimp only
      rw [checkedSub_eq (by omega)]
      change (checkedMul (blocks.numBlocks - 1) blocks.blockLen >>= _) = _
      rw [checkedMul_eq (by omega)]
      exact checkedAdd_eq (by omega)
  · rfl

/-- The parser returns a result or an error on every byte string. -/
theorem parseDataReadResponseChecked_eq (buf : Slice UInt8) (maxLen : Nat) :
    parseDataReadResponseChecked buf maxLen = reported (parseDataReadResponse buf.items maxLen) := by
  obtain ⟨buf, hbuf⟩ := buf
  rw [parseDataReadResponse_eq, parseDataReadResponseChecked]
  dsimp only
  rw [readBlocksChecked_eq hbuf _ (blocks_within_start buf) (by omega), reported_bind]
  cases hblocks : readBlocks buf buf.length {} with
  | error e => rfl
  | ok blocks =>
    have hwithin := readBlocks_within (blocks_within_start buf) hblocks
    change ((parseStatusBlockChecked (buf.drop blocks.i)).mapError _ >>= _) = reported (_ >>= _)
    rw [parseStatusBlockChecked_eq, mapError_reported, reported_bind]
    congr 1
    funext status
    by_cases hid : status.id ≠ niusbIbrdStatusId
    · rw [if_pos hid, if_pos hid]
      rfl
    · rw [if_neg hid, if_neg hid, reported_bind]
      congr 1
      funext _
      rw [reported_bind, actualLenChecked_eq hbuf hwithin]
      rfl

end checked

section encoded
variable {buf : List UInt8} {blocks : Blocks} {tail : List UInt8}

theorem Blocks.take_eq {i blockLen : Nat} {bytes : List UInt8} (blocks : Blocks)
    (hdrop : buf.drop i = bytes ++ tail) (hsize : bytes.length = blockLen) (hpos : 0 < blockLen) :
    blocks.take buf i blockLen = .ok {
      i := i + blockLen
      data := blocks.data ++ bytes
      numBlocks := blocks.numBlocks + 1
      blockLen } := by
  have hlen := congrArg List.length hdrop
  rw [List.length_drop, List.length_append] at hlen
  rw [Blocks.take, if_pos (by omega), hdrop, List.take_left' hsize]

/-- One block is read back. -/
theorem readBlocks_encode (block : DataBlock) (fuel : Nat)
    (hdrop : buf.drop blocks.i = block.encode ++ tail) :
    readBlocks buf (fuel + 1) blocks = readBlocks buf fuel {
      i := blocks.i + block.encode.length
      data := blocks.data ++ block.bytes
      numBlocks := blocks.numBlocks + 1
      blockLen := block.bytes.length } := by
  obtain ⟨extended, bytes, hsize⟩ := block
  have hbyte : ∀ n, buf[blocks.i + n]? = (buf.drop blocks.i)[n]? := fun n => List.getElem?_drop.symm
  rw [hdrop] at hbyte
  cases extended with
  | false =>
    have hshort : bytes.length = 15 := hsize
    have hbytes : buf.drop (blocks.i + 1) = bytes ++ tail := by
      rw [← List.drop_drop, hdrop]
      rfl
    have hlen : (DataBlock.mk false bytes hsize).encode.length = 1 + 15 := by
      simp [DataBlock.encode, hshort]
    rw [readBlocks_data (hbyte 0), blocks.take_eq hbytes hshort (by decide), hlen, hshort]
    rfl
  | true =>
    have hlong : bytes.length = 30 := hsize
    have hzero : buf[blocks.i + 1]? = some 0 := hbyte 1
    have hbytes : buf.drop (blocks.i + 2) = bytes ++ tail := by
      rw [← List.drop_drop, hdrop]
      rfl
    have hlen : (DataBlock.mk true bytes hsize).encode.length = 2 + 30 := by
      simp [DataBlock.encode, hlong]
    rw [readBlocks_extended (hbyte 0), if_pos hzero, blocks.take_eq hbytes hlong (by decide), hlen,
      hlong]
    rfl

/-- All blocks are read back; what follows them does not look like one. -/
theorem readBlocks_encodeAll (all : List DataBlock) {fuel : Nat} {blocks : Blocks}
    (hfuel : all.length ≤ fuel) (hdrop : buf.drop blocks.i = all.flatMap (·.encode) ++ tail)
    (htail : tail.head? = some niusbIbrdStatusId) :
    readBlocks buf fuel blocks = .ok {
      i := blocks.i + (all.flatMap (·.encode)).length
      data := blocks.data ++ all.flatMap (·.bytes)
      numBlocks := blocks.numBlocks + all.length
      blockLen := (all.getLast?.map (·.bytes.length)).getD blocks.blockLen } := by
  induction all generalizing fuel blocks with
  | nil =>
    have hid : buf[blocks.i]? = some niusbIbrdStatusId := by
      have hhead : (buf.drop blocks.i)[0]? = some niusbIbrdStatusId := by
        rw [hdrop, ← htail]
        exact List.head?_eq_getElem?.symm
      rwa [List.getElem?_drop] at hhead
    rw [readBlocks_done (by rw [hid]; decide) (by rw [hid]; decide)]
    simp
  | cons block rest ih =>
    obtain ⟨fuel, rfl⟩ : ∃ left, fuel = left + 1 := ⟨fuel - 1, by simp at hfuel; omega⟩
    rw [List.flatMap_cons, List.append_assoc] at hdrop
    rw [readBlocks_encode block fuel hdrop, ih (by simpa using hfuel) ?_]
    · simp [List.getLast?_cons, Nat.add_assoc, Nat.add_comm 1]
    · rw [← List.drop_drop, hdrop]
      exact List.drop_left

end encoded

namespace DataReadReply
variable (reply : DataReadReply)

theorem parseStatusBlock_encodeStatus :
    parseStatusBlock reply.encodeStatus = .ok {
      id := niusbIbrdStatusId
      ibsta := reply.ibsta
      errorCode := 0
      count := ~~~(reply.residual.1.toUInt16 ||| reply.residual.2.toUInt16 <<< 8) + 1 } := by
  have hlen : ¬reply.encodeStatus.length < 8 := by
    simp [encodeStatus]
  rw [parseStatusBlock, if_neg hlen]
  simp only [encodeStatus, List.cons_append, List.getD_cons_zero, List.getD_cons_succ,
    uint16_bytes]

theorem blocks_length_le : reply.blocks.length ≤ reply.encode.length := by
  have hsum : ∀ all : List DataBlock, all.length ≤ (all.flatMap (·.encode)).length := by
    intro all
    induction all with
    | nil => exact Nat.le_refl 0
    | cons block rest ih =>
      have hblock : 0 < block.encode.length := by
        rw [DataBlock.encode]
        split <;> simp
      rw [List.flatMap_cons, List.length_append, List.length_cons]
      omega
  rw [encode, List.length_append]
  exact Nat.le_trans (hsum reply.blocks) (Nat.le_add_right _ _)

/-- The parser's place after the blocks. -/
def parsedBlocks : Blocks where
  i := (reply.blocks.flatMap (·.encode)).length
  data := reply.received
  numBlocks := reply.blocks.length
  blockLen := (reply.blocks.getLast?.map (·.bytes.length)).getD 0

theorem readBlocks_reply :
    readBlocks reply.encode reply.encode.length {} = .ok reply.parsedBlocks := by
  have hstart : reply.encode.drop ({} : Blocks).i =
      reply.blocks.flatMap (·.encode) ++ reply.encodeStatus := rfl
  rw [readBlocks_encodeAll reply.blocks reply.blocks_length_le hstart rfl]
  simp [parsedBlocks, received]

theorem drop_parsedBlocks : reply.encode.drop reply.parsedBlocks.i = reply.encodeStatus :=
  List.drop_left

theorem actualLen_reply : actualLen reply.encode reply.parsedBlocks = .ok reply.assumedLen := by
  have hcount : reply.encode[reply.parsedBlocks.i + 9]? = some reply.count := by
    rw [← List.getElem?_drop, drop_parsedBlocks]
    rfl
  rw [actualLen, assumedLen, hcount]
  cases hlast : reply.blocks.getLast? with
  | none =>
    have hempty : reply.parsedBlocks.numBlocks = 0 := by
      rw [parsedBlocks, List.getLast?_eq_none_iff.mp hlast]
      rfl
    rw [hempty]
    rfl
  | some last =>
    have hpos : reply.parsedBlocks.numBlocks > 0 :=
      List.length_pos_of_mem (List.mem_of_getLast? hlast)
    rw [if_pos hpos]
    simp only [parsedBlocks, hlast, Option.map_some, Option.getD_some]

/-- What the parser makes of a reply. -/
theorem parse_encode (maxLen : Nat) : parseDataReadResponse reply.encode maxLen =
    .ok (reply.received.take (min reply.assumedLen maxLen), reply.ended) := by
  rw [parseDataReadResponse_eq, readBlocks_reply]
  change ((parseStatusBlock (reply.encode.drop reply.parsedBlocks.i)).mapError _ >>= _) = _
  rw [drop_parsedBlocks, parseStatusBlock_encodeStatus]
  -- the id and the error code of the status block pass
  change (actualLen reply.encode reply.parsedBlocks >>= fun actual =>
    pure (reply.received.take (min actual maxLen), reply.ended)) = _
  rw [actualLen_reply]
  rfl

/-- The data is what there is in the blocks, cut to its length. -/
theorem payload_eq : reply.payload = reply.received.take reply.payload.length := by
  rw [payload, received]
  cases hlast : reply.blocks.getLast? with
  | none => simp
  | some last =>
    have hsplit : reply.blocks = reply.blocks.dropLast ++ [last] :=
      (List.dropLast_append_getLast? last hlast).symm
    have hreceived : reply.blocks.flatMap (·.bytes) =
        reply.blocks.dropLast.flatMap (·.bytes) ++ last.bytes := by
      conv => lhs; rw [hsplit]
      simp
    dsimp only
    rw [hreceived, List.length_append, List.take_length_add_append, List.length_take,
      min_eq_left (reply.count_le last hlast)]

theorem payload_length_le : reply.payload.length ≤ reply.received.length := by
  have h := congrArg List.length reply.payload_eq
  rw [List.length_take] at h
  omega

end DataReadReply

end Ugpibd.Backend.NiUsbHs
