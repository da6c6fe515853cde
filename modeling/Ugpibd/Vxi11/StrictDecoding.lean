import Ugpibd.Vxi11.Messages

/-! What a decoder says about the bytes it was given. Re-encoding an accepted message gives back what
was consumed except for padding, but where a word is narrowed after it has been read. -/
namespace Ugpibd.Vxi11
open Library Xdr

namespace Cursor

theorem take_spells (n : Nat) :
    Spells .truncated (take n) fun data bytes => bytes = data ∧ data.length = n := by
  intro input data rest h
  simp only [take, StateT.run] at h
  split at h
  · rename_i hle
    obtain ⟨rfl, rfl⟩ := Prod.mk.inj (Except.ok.inj h)
    have hlen : (input.take n).length = n := List.length_take_of_le hle
    exact ⟨input.take n, (List.take_append_drop n input).symm, take_reads hlen, rfl, hlen⟩
  · cases h

theorem u32_spells : Spells .truncated u32 fun v bytes => bytes = putU32 v := by
  refine (take_spells 4).bind ?_
  rintro _ data ⟨rfl, hlen⟩
  refine spells_pure ?_
  have hlt : fromBeBytes data < 2 ^ 32 := by simpa [hlen] using fromBeBytes_lt data
  rw [List.append_nil, putU32, UInt32.toNat_ofNat_of_lt' hlt, ← hlen, toBeBytes_fromBeBytes]

theorem i32_spells : Spells .truncated i32 fun v bytes => bytes = putI32 v := by
  refine u32_spells.bind ?_
  rintro v _ rfl
  refine spells_pure ?_
  rw [List.append_nil, putI32, UInt32.toUInt32_toInt32]

/-- Of the words a bool could be, only two are taken. -/
theorem bool_spells : Spells .truncated bool fun v bytes => bytes = putBool v := by
  refine u32_spells.bind ?_
  rintro v _ rfl
  split
  · rename_i hzero
    exact spells_pure (by rw [List.append_nil, hzero]; rfl)
  · split
    · rename_i hone
      exact spells_pure (by rw [List.append_nil, hone]; rfl)
    · exact spells_throw _

/-- A byte string with any padding. -/
theorem byteString_spells (max : UInt32) :
    Spells .truncated (byteString max) fun data bytes =>
      ∃ padding, padding.length = padOf data.length ∧ data.length ≤ max.toNat ∧
        bytes = putU32 (UInt32.ofNat data.length) ++ data ++ padding := by
  refine u32_spells.bind ?_
  rintro len _ rfl
  split
  · exact spells_throw _
  · rename_i hcap
    refine (take_spells len.toNat).bind ?_
    rintro _ data ⟨rfl, hlen⟩
    refine (take_spells _).bind ?_
    rintro _ padding ⟨rfl, hpadding⟩
    refine spells_pure ⟨padding, by rw [hpadding, hlen], ?_, ?_⟩
    · rw [hlen]
      exact UInt32.le_iff_toNat_le.mp (UInt32.not_lt.mp hcap)
    · rw [hlen, UInt32.ofNat_toNat, List.append_nil, List.append_assoc]

theorem decode_eq_ok {α : Type} {cursor : Cursor α} {data : List UInt8} {m : α} :
    decode cursor data = .ok m ↔ ∃ rest, cursor.run data = .ok (m, rest) := by
  rw [decode]
  cases cursor.run data with
  | error e => simp [Except.map]
  | ok result => simp [Except.map, Prod.ext_iff]

end Cursor

namespace Messages

/-- The same bytes up to the contents of the last few of them. -/
def AgreeButPadding (padding : Nat) (bytes encoded : List UInt8) : Prop :=
  ∃ fields tail, bytes = fields ++ tail ∧ tail.length = padding ∧
    encoded = fields ++ List.replicate padding 0

theorem AgreeButPadding.append {padding : Nat} {bytes encoded : List UInt8}
    (h : AgreeButPadding padding bytes encoded) (front : List UInt8) :
    AgreeButPadding padding (front ++ bytes) (front ++ encoded) := by
  obtain ⟨fields, tail, rfl, hlen, rfl⟩ := h
  exact ⟨front ++ fields, tail, (List.append_assoc ..).symm, hlen, (List.append_assoc ..).symm⟩

theorem agree_self (bytes : List UInt8) : AgreeButPadding 0 bytes bytes :=
  ⟨bytes, [], (List.append_nil _).symm, rfl, (List.append_nil _).symm⟩

/-- A byte string as the last field. -/
theorem agree_opaqueField {data padding : List UInt8} (hlen : padding.length = padOf data.length) :
    AgreeButPadding (padOf data.length)
      (putU32 (UInt32.ofNat data.length) ++ data ++ padding ++ []) (putOpaque data ++ []) :=
  ⟨putU32 (UInt32.ofNat data.length) ++ data, padding, List.append_nil _, hlen,
    by simp [putOpaque]⟩

/-- The encoding gives the fields' bytes of whatever it agrees with. -/
theorem AgreeButPadding.take_eq {padding : Nat} {bytes encoded rest : List UInt8}
    (h : AgreeButPadding padding bytes encoded) :
    (bytes ++ rest).take (encoded.length - padding) = encoded.take (encoded.length - padding) := by
  obtain ⟨fields, tail, rfl, -, rfl⟩ := h
  simp [List.append_assoc]

/-- The word at an offset. -/
def wordAt (data : List UInt8) (offset : Nat) : Nat := fromBeBytes ((data.drop offset).take 4)

section
variable {α : Type} (encode : α → List UInt8) (decode : List UInt8 → Except XdrError α)
  (padding : α → Nat)

/-- Strict decoding of one byte string. If it is accepted then because of a front part of it, read
alike whatever follows and refused if cut short, which re-encoding gives back but for padding. -/
def StrictOn (data : List UInt8) : Prop :=
  ∀ m, decode data = .ok m → ∃ consumed rest, data = consumed ++ rest ∧
    (∀ trailing, decode (consumed ++ trailing) = .ok m) ∧
    (∀ front, front <+: consumed → front ≠ consumed → decode front = .error .truncated) ∧
    AgreeButPadding (padding m) consumed (encode m)

/-- Decoding is strict on the byte strings that meet the condition and on no other it accepts, and two
of them that give one message have the same bytes in all its fields. -/
structure StrictWhere (fits : List UInt8 → Prop) : Prop where
  strict_iff : ∀ data, StrictOn encode decode padding data ↔ ∀ m, decode data = .ok m → fits data
  distinct : ∀ data data' m, decode data = .ok m → decode data' = .ok m → fits data → fits data' →
    data.take ((encode m).length - padding m) = data'.take ((encode m).length - padding m)

end

section
variable {α : Type} {encode : α → List UInt8} {cursor : Cursor α} {padding : α → Nat}
  {decode : List UInt8 → Except XdrError α} {data data' : List UInt8} {m : α}

/-- Where decoding is strict the fields are those of the encoding. -/
theorem StrictOn.take_eq (h : StrictOn encode decode padding data) (hm : decode data = .ok m) :
    data.take ((encode m).length - padding m) =
      (encode m).take ((encode m).length - padding m) := by
  obtain ⟨consumed, rest, rfl, -, -, hagree⟩ := h m hm
  exact hagree.take_eq

theorem strictWhere_of_iff {fits : List UInt8 → Prop}
    (h : ∀ data, StrictOn encode decode padding data ↔ ∀ m, decode data = .ok m → fits data) :
    StrictWhere encode decode padding fits where
  strict_iff := h
  distinct := by
    intro data data' m hm hm' hfits hfits'
    have hstrict : StrictOn encode decode padding data := (h data).mpr fun _ _ => hfits
    have hstrict' : StrictOn encode decode padding data' := (h data').mpr fun _ _ => hfits'
    rw [hstrict.take_eq hm, hstrict'.take_eq hm']

/-- Decoding with no word narrowed is strict on everything. -/
theorem strictWhere_of_spells (h : Spells .truncated cursor fun m bytes =>
      AgreeButPadding (padding m) bytes (encode m)) :
    StrictWhere encode (Cursor.decode cursor) padding fun _ => True := by
  refine strictWhere_of_iff fun data => ⟨fun _ _ _ => trivial, fun _ m hm => ?_⟩
  obtain ⟨rest, hrun⟩ := Cursor.decode_eq_ok.mp hm
  obtain ⟨consumed, rfl, hreads, hagree⟩ := h data m rest hrun
  refine ⟨consumed, rest, rfl, fun trailing => ?_, fun front hfront hne => ?_, hagree⟩
  · exact Cursor.decode_eq_ok.mpr ⟨trailing, hreads.whole trailing⟩
  · rw [Cursor.decode, hreads.cut front hfront hne]
    rfl

/-- A message of words one of which is narrowed: the others are as in its encoding. -/
structure Narrowed (encode : α → List UInt8) (offset bound : Nat) (m : α) (bytes : List UInt8) :
    Prop where
  length_eq : bytes.length = (encode m).length
  inside : offset + 4 ≤ bytes.length
  eq_iff : bytes = encode m ↔ wordAt bytes offset < bound

theorem wordAt_append {bytes rest : List UInt8} {offset : Nat} (h : offset + 4 ≤ bytes.length) :
    wordAt (bytes ++ rest) offset = wordAt bytes offset := by
  rw [wordAt, wordAt, List.drop_append_of_le_length (by omega),
    List.take_append_of_le_length (by rw [List.length_drop]; omega)]

theorem strictWhere_of_narrowed {offset bound : Nat}
    (h : Spells .truncated cursor (Narrowed encode offset bound)) :
    StrictWhere encode (Cursor.decode cursor) (fun _ => 0) fun data =>
      wordAt data offset < bound := by
  refine strictWhere_of_iff fun data => ⟨fun hstrict m hm => ?_, fun hfits m hm => ?_⟩
  · obtain ⟨rest, hrun⟩ := Cursor.decode_eq_ok.mp hm
    obtain ⟨consumed, rfl, -, hnarrowed⟩ := h data m rest hrun
    have htake : (consumed ++ rest).take (encode m).length = encode m := by
      simpa using hstrict.take_eq hm
    rw [← hnarrowed.length_eq, List.take_left] at htake
    rw [wordAt_append hnarrowed.inside]
    exact hnarrowed.eq_iff.mp htake
  · obtain ⟨rest, hrun⟩ := Cursor.decode_eq_ok.mp hm
    obtain ⟨consumed, rfl, hreads, hnarrowed⟩ := h data m rest hrun
    have hword : wordAt consumed offset < bound := by
      simpa only [wordAt_append hnarrowed.inside] using hfits m hm
    refine ⟨consumed, rest, rfl, fun trailing => ?_, fun front hfront hne => ?_, ?_⟩
    · exact Cursor.decode_eq_ok.mpr ⟨trailing, hreads.whole trailing⟩
    · rw [Cursor.decode, hreads.cut front hfront hne]
      rfl
    · rw [hnarrowed.eq_iff.mpr hword]
      exact agree_self _

@[simp] theorem putU32_length (v : UInt32) : (putU32 v).length = 4 := toBeBytes_length 4 _

/-- The bytes around a narrowed word. -/
theorem narrowed_of_word (front : List UInt8) {back : List UInt8} {v w : UInt32} {bound : Nat}
    (hencode : encode m = front ++ (putU32 w ++ back)) (hw : v = w ↔ v.toNat < bound) :
    Narrowed encode front.length bound m (front ++ (putU32 v ++ back)) where
  length_eq := by simp [hencode]
  inside := by simp only [List.length_append, putU32_length]; omega
  eq_iff := by
    have hword : wordAt (front ++ (putU32 v ++ back)) front.length = v.toNat := by
      rw [wordAt, List.drop_left, List.take_append_of_le_length (by simp),
        List.take_of_length_le (by simp), putU32, fromBeBytes_toBeBytes]
      exact Nat.mod_eq_of_lt v.toNat_lt
    have hput : putU32 v = putU32 w ↔ v = w := by
      refine ⟨fun h => ?_, congrArg _⟩
      have hv := (Cursor.u32_reads v).whole []
      rw [h, (Cursor.u32_reads w).whole []] at hv
      exact (Prod.mk.inj (Except.ok.inj hv)).1.symm
    rw [hencode, hword, ← hw, ← hput, List.append_cancel_left_eq, List.append_cancel_right_eq]

end

theorem CreateLinkParms.strict :
    StrictWhere CreateLinkParms.encode CreateLinkParms.decode (fun m => padOf m.device.length)
      fun _ => True := by
  refine strictWhere_of_spells ?_
  refine Cursor.i32_spells.bind ?_
  rintro clientId _ rfl
  refine Cursor.bool_spells.bind ?_
  rintro lockDevice _ rfl
  refine Cursor.u32_spells.bind ?_
  rintro lockTimeoutMs _ rfl
  refine (Cursor.byteString_spells _).bind ?_
  rintro device _ ⟨padding, hpadding, -, rfl⟩
  exact spells_pure ((((agree_opaqueField hpadding).append _).append _).append _)

theorem DeviceWriteParms.strict (maxData : UInt32) :
    StrictWhere DeviceWriteParms.encode (DeviceWriteParms.decode maxData) (fun m => padOf m.data.length)
      fun _ => True := by
  refine strictWhere_of_spells ?_
  refine Cursor.i32_spells.bind ?_
  rintro lid _ rfl
  refine Cursor.u32_spells.bind ?_
  rintro ioTimeoutMs _ rfl
  refine Cursor.u32_spells.bind ?_
  rintro lockTimeoutMs _ rfl
  refine Cursor.u32_spells.bind ?_
  rintro flags _ rfl
  refine (Cursor.byteString_spells _).bind ?_
  rintro data _ ⟨padding, hpadding, -, rfl⟩
  exact spells_pure (((((agree_opaqueField hpadding).append _).append _).append _).append _)

theorem DeviceWriteResp.strict :
    StrictWhere DeviceWriteResp.encode DeviceWriteResp.decode (fun _ => 0) fun _ => True := by
  refine strictWhere_of_spells ?_
  refine Cursor.u32_spells.bind ?_
  rintro error _ rfl
  refine Cursor.u32_spells.bind ?_
  rintro size _ rfl
  exact spells_pure (agree_self _)

theorem DeviceReadParms.strict :
    StrictWhere DeviceReadParms.encode DeviceReadParms.decode (fun _ => 0) fun _ => True := by
  refine strictWhere_of_spells ?_
  refine Cursor.i32_spells.bind ?_
  rintro lid _ rfl
  refine Cursor.u32_spells.bind ?_
  rintro requestSize _ rfl
  refine Cursor.u32_spells.bind ?_
  rintro ioTimeoutMs _ rfl
  refine Cursor.u32_spells.bind ?_
  rintro lockTimeoutMs _ rfl
  refine Cursor.u32_spells.bind ?_
  rintro flags _ rfl
  refine Cursor.i32_spells.bind ?_
  rintro termChar _ rfl
  exact spells_pure (agree_self _)

theorem DeviceReadResp.strict (maxData : UInt32) :
    StrictWhere DeviceReadResp.encode (DeviceReadResp.decode maxData) (fun m => padOf m.data.length)
      fun _ => True := by
  refine strictWhere_of_spells ?_
  refine Cursor.u32_spells.bind ?_
  rintro error _ rfl
  refine Cursor.u32_spells.bind ?_
  rintro reason _ rfl
  refine (Cursor.byteString_spells _).bind ?_
  rintro data _ ⟨padding, hpadding, -, rfl⟩
  exact spells_pure (((agree_opaqueField hpadding).append _).append _)

theorem DeviceGenericParms.strict :
    StrictWhere DeviceGenericParms.encode DeviceGenericParms.decode (fun _ => 0) fun _ => True := by
  refine strictWhere_of_spells ?_
  refine Cursor.i32_spells.bind ?_
  rintro lid _ rfl
  refine Cursor.u32_spells.bind ?_
  rintro flags _ rfl
  refine Cursor.u32_spells.bind ?_
  rintro lockTimeoutMs _ rfl
  refine Cursor.u32_spells.bind ?_
  rintro ioTimeoutMs _ rfl
  exact spells_pure (agree_self _)

theorem DeviceLockParms.strict :
    StrictWhere DeviceLockParms.encode DeviceLockParms.decode (fun _ => 0) fun _ => True := by
  refine strictWhere_of_spells ?_
  refine Cursor.i32_spells.bind ?_
  rintro lid _ rfl
  refine Cursor.u32_spells.bind ?_
  rintro flags _ rfl
  refine Cursor.u32_spells.bind ?_
  rintro lockTimeoutMs _ rfl
  exact spells_pure (agree_self _)

theorem DeviceEnableSrqParms.strict :
    StrictWhere DeviceEnableSrqParms.encode DeviceEnableSrqParms.decode (fun m => padOf m.handle.length)
      fun _ => True := by
  refine strictWhere_of_spells ?_
  refine Cursor.i32_spells.bind ?_
  rintro lid _ rfl
  refine Cursor.bool_spells.bind ?_
  rintro enable _ rfl
  refine (Cursor.byteString_spells _).bind ?_
  rintro handle _ ⟨padding, hpadding, -, rfl⟩
  exact spells_pure (((agree_opaqueField hpadding).append _).append _)

theorem DeviceSrqParms.strict :
    StrictWhere DeviceSrqParms.encode DeviceSrqParms.decode (fun m => padOf m.handle.length)
      fun _ => True := by
  refine strictWhere_of_spells ?_
  refine (Cursor.byteString_spells _).bind ?_
  rintro handle _ ⟨padding, hpadding, -, rfl⟩
  exact spells_pure (agree_opaqueField hpadding)

theorem DeviceDocmdParms.strict :
    StrictWhere DeviceDocmdParms.encode DeviceDocmdParms.decode (fun m => padOf m.dataIn.length)
      fun _ => True := by
  refine strictWhere_of_spells ?_
  refine Cursor.i32_spells.bind ?_
  rintro lid _ rfl
  refine Cursor.u32_spells.bind ?_
  rintro flags _ rfl
  refine Cursor.u32_spells.bind ?_
  rintro ioTimeoutMs _ rfl
  refine Cursor.u32_spells.bind ?_
  rintro lockTimeoutMs _ rfl
  refine Cursor.i32_spells.bind ?_
  rintro cmd _ rfl
  refine Cursor.bool_spells.bind ?_
  rintro networkOrder _ rfl
  refine Cursor.i32_spells.bind ?_
  rintro datasize _ rfl
  refine (Cursor.byteString_spells _).bind ?_
  rintro dataIn _ ⟨padding, hpadding, -, rfl⟩
  have hdata := (agree_opaqueField hpadding).append (putI32 datasize)
  have hcommand := ((hdata.append (putBool networkOrder)).append (putI32 cmd))
  exact spells_pure ((((hcommand.append _).append _).append _).append _)

theorem DeviceDocmdResp.strict :
    StrictWhere DeviceDocmdResp.encode DeviceDocmdResp.decode (fun m => padOf m.dataOut.length)
      fun _ => True := by
  refine strictWhere_of_spells ?_
  refine Cursor.u32_spells.bind ?_
  rintro error _ rfl
  refine (Cursor.byteString_spells _).bind ?_
  rintro dataOut _ ⟨padding, hpadding, -, rfl⟩
  exact spells_pure ((agree_opaqueField hpadding).append _)

theorem deviceError_strict :
    StrictWhere encodeDeviceError decodeDeviceError (fun _ => 0) fun _ => True := by
  refine strictWhere_of_spells ?_
  intro data error rest hrun
  obtain ⟨bytes, hdata, hreads, rfl⟩ := Cursor.u32_spells data error rest hrun
  exact ⟨_, hdata, hreads, agree_self _⟩

theorem toUInt16_fits (v : UInt32) : v = v.toUInt16.toUInt32 ↔ v.toNat < 2 ^ 16 := by
  rw [← UInt32.toNat_inj, UInt16.toNat_toUInt32, UInt32.toNat_toUInt16, eq_comm]
  exact Nat.mod_eq_iff_lt (by decide)

theorem toUInt8_fits (v : UInt32) : v = v.toUInt8.toUInt32 ↔ v.toNat < 2 ^ 8 := by
  rw [← UInt32.toNat_inj, UInt8.toNat_toUInt32, UInt32.toNat_toUInt8, eq_comm]
  exact Nat.mod_eq_iff_lt (by decide)

/-- The abort port is the low half of its word. -/
theorem CreateLinkResp.strict :
    StrictWhere CreateLinkResp.encode CreateLinkResp.decode (fun _ => 0) fun data =>
      wordAt data 8 < 2 ^ 16 := by
  refine strictWhere_of_narrowed ?_
  refine Cursor.u32_spells.bind ?_
  rintro error _ rfl
  refine Cursor.i32_spells.bind ?_
  rintro lid _ rfl
  refine Cursor.u32_spells.bind ?_
  rintro abortPort _ rfl
  refine Cursor.u32_spells.bind ?_
  rintro maxRecvSize _ rfl
  refine spells_pure ?_
  exact narrowed_of_word (putU32 error ++ putI32 lid) rfl (toUInt16_fits abortPort)

/-- The status byte is the low byte of its word. -/
theorem DeviceReadStbResp.strict :
    StrictWhere DeviceReadStbResp.encode DeviceReadStbResp.decode (fun _ => 0) fun data =>
      wordAt data 4 < 2 ^ 8 := by
  refine strictWhere_of_narrowed ?_
  refine Cursor.u32_spells.bind ?_
  rintro error _ rfl
  refine Cursor.u32_spells.bind ?_
  rintro stb _ rfl
  refine spells_pure ?_
  exact narrowed_of_word (putU32 error) rfl (toUInt8_fits stb)

/-- So is the port of the client's interrupt channel. -/
theorem DeviceRemoteFunc.strict :
    StrictWhere DeviceRemoteFunc.encode DeviceRemoteFunc.decode (fun _ => 0) fun data =>
      wordAt data 4 < 2 ^ 16 := by
  refine strictWhere_of_narrowed ?_
  refine Cursor.u32_spells.bind ?_
  rintro hostAddr _ rfl
  refine Cursor.u32_spells.bind ?_
  rintro hostPort _ rfl
  refine Cursor.u32_spells.bind ?_
  rintro progNum _ rfl
  refine Cursor.u32_spells.bind ?_
  rintro progVers _ rfl
  refine Cursor.u32_spells.bind ?_
  rintro progFamily _ rfl
  refine spells_pure ?_
  exact narrowed_of_word (putU32 hostAddr) rfl (toUInt16_fits hostPort)

/-- Every message is decoded strictly, whatever bytes are given to it, except that the three structures
with a port or a status byte take any word for it: these are decoded strictly exactly where the word
fits the field. -/
theorem decoding_strict_where_words_fit (maxData : UInt32) :
    StrictWhere CreateLinkParms.encode CreateLinkParms.decode (fun m => padOf m.device.length)
      (fun _ => True) ∧
    StrictWhere CreateLinkResp.encode CreateLinkResp.decode (fun _ => 0)
      (fun data => wordAt data 8 < 2 ^ 16) ∧
    StrictWhere DeviceWriteParms.encode (DeviceWriteParms.decode maxData)
      (fun m => padOf m.data.length) (fun _ => True) ∧
    StrictWhere DeviceWriteResp.encode DeviceWriteResp.decode (fun _ => 0) (fun _ => True) ∧
    StrictWhere DeviceReadParms.encode DeviceReadParms.decode (fun _ => 0) (fun _ => True) ∧
    StrictWhere DeviceReadResp.encode (DeviceReadResp.decode maxData)
      (fun m => padOf m.data.length) (fun _ => True) ∧
    StrictWhere DeviceGenericParms.encode DeviceGenericParms.decode (fun _ => 0) (fun _ => True) ∧
    StrictWhere DeviceReadStbResp.encode DeviceReadStbResp.decode (fun _ => 0)
      (fun data => wordAt data 4 < 2 ^ 8) ∧
    StrictWhere DeviceLockParms.encode DeviceLockParms.decode (fun _ => 0) (fun _ => True) ∧
    StrictWhere DeviceEnableSrqParms.encode DeviceEnableSrqParms.decode
      (fun m => padOf m.handle.length) (fun _ => True) ∧
    StrictWhere DeviceRemoteFunc.encode DeviceRemoteFunc.decode (fun _ => 0)
      (fun data => wordAt data 4 < 2 ^ 16) ∧
    StrictWhere DeviceSrqParms.encode DeviceSrqParms.decode (fun m => padOf m.handle.length)
      (fun _ => True) ∧
    StrictWhere DeviceDocmdParms.encode DeviceDocmdParms.decode (fun m => padOf m.dataIn.length)
      (fun _ => True) ∧
    StrictWhere DeviceDocmdResp.encode DeviceDocmdResp.decode (fun m => padOf m.dataOut.length)
      (fun _ => True) ∧
    StrictWhere encodeDeviceError decodeDeviceError (fun _ => 0) (fun _ => True) :=
  ⟨CreateLinkParms.strict, CreateLinkResp.strict, DeviceWriteParms.strict maxData,
    DeviceWriteResp.strict, DeviceReadParms.strict, DeviceReadResp.strict maxData,
    DeviceGenericParms.strict, DeviceReadStbResp.strict, DeviceLockParms.strict,
    DeviceEnableSrqParms.strict, DeviceRemoteFunc.strict, DeviceSrqParms.strict, DeviceDocmdParms.strict, DeviceDocmdResp.strict,
    deviceError_strict⟩

/-- A reply to `create_link` whose abort port word is 65536 more than another's. -/
theorem abort_port_word_narrowed :
    let reply (port : UInt32) := [putU32 0, putI32 1, putU32 port, putU32 65536].flatten
    reply 70537 ≠ reply 5001 ∧
    CreateLinkResp.decode (reply 70537) = .ok ⟨0, 1, 5001, 65536⟩ ∧
    CreateLinkResp.decode (reply 5001) = .ok ⟨0, 1, 5001, 65536⟩ ∧
    CreateLinkResp.encode ⟨0, 1, 5001, 65536⟩ ≠ reply 70537 := by
  decide +kernel

end Messages
end Ugpibd.Vxi11
