import Ugpibd.Vxi11.Portmap

/-! The header of an RPC call, in front of arguments only the procedure can decode. -/
namespace Ugpibd.Vxi11.Rpc
open Library Xdr Messages Portmap

def rpcVersion : UInt32 := 2
def authBodyMax : UInt32 := 400
def callType : UInt32 := 0
def authNone : UInt32 := 0

structure CallHeader where
  xid : UInt32
  prog : UInt32
  vers : UInt32
  proc : UInt32
  deriving DecidableEq, Repr

/-- Why a record could not be dispatched as a call. -/
inductive CallError
  | garbled (e : XdrError)
  | notACall (xid : UInt32)
  | rpcVersion (xid vers : UInt32)
  deriving DecidableEq, Repr

/-- A field of the header whose failure leaves nothing to reply to. -/
def orGarbled {α : Type} (cursor : Cursor α) : Reader CallError α := fun data =>
  (cursor.run data).mapError .garbled

/-- The credential and the verifier are skipped, whatever they hold. -/
def callHeader : Reader CallError CallHeader := do
  let xid ← orGarbled Cursor.u32
  let mtype ← orGarbled Cursor.u32
  if mtype ≠ callType then throw (.notACall xid)
  let vers ← orGarbled Cursor.u32
  if vers ≠ rpcVersion then throw (.rpcVersion xid vers)
  orGarbled do
    let prog ← Cursor.u32
    let vers ← Cursor.u32
    let proc ← Cursor.u32
    let _ ← Cursor.u32
    let _ ← Cursor.byteString authBodyMax
    let _ ← Cursor.u32
    let _ ← Cursor.byteString authBodyMax
    return { xid, prog, vers, proc }

/-- The header and the arguments, undecoded. -/
def decodeCall (record : List UInt8) : Except CallError (CallHeader × List UInt8) :=
  callHeader.run record

/-- The header of a call with no credential and no verifier. -/
def encodeHeader (header : CallHeader) : List UInt8 :=
  [putU32 header.xid, putU32 callType, putU32 rpcVersion, putU32 header.prog, putU32 header.vers,
    putU32 header.proc, putU32 authNone, putOpaque [], putU32 authNone, putOpaque []].flatten

def encodeCall (xid prog vers proc : UInt32) (args : List UInt8) : List UInt8 :=
  encodeHeader { xid, prog, vers, proc } ++ args

theorem orGarbled_reads {α : Type} {cursor : Cursor α} {bytes : List UInt8} {a : α}
    (h : Reads .truncated cursor bytes a) :
    Reads (.garbled .truncated) (orGarbled cursor) bytes a where
  whole := by
    intro rest
    change (cursor.run _).mapError _ = _
    rw [h.whole]
    rfl
  cut := by
    intro front hfront hne
    change (cursor.run _).mapError _ = _
    rw [h.cut front hfront hne]
    rfl

theorem callHeader_reads (header : CallHeader) :
    Reads (.garbled .truncated) callHeader (encodeHeader header) header := by
  refine (orGarbled_reads (Cursor.u32_reads _)).bind ?_
  refine (orGarbled_reads (Cursor.u32_reads _)).bind ?_
  rw [if_neg (by simp)]
  refine (orGarbled_reads (Cursor.u32_reads _)).bind ?_
  rw [if_neg (by simp)]
  refine orGarbled_reads ?_
  refine (Cursor.u32_reads _).bind ?_
  refine (Cursor.u32_reads _).bind ?_
  refine (Cursor.u32_reads _).bind ?_
  refine (Cursor.u32_reads _).bind ?_
  refine (Cursor.byteString_reads (Nat.zero_le _)).bind ?_
  refine (Cursor.u32_reads _).bind ?_
  refine (Cursor.byteString_reads (Nat.zero_le _)).bind ?_
  exact reads_pure _ header

/-- Every message reads back from its encoding, with anything behind it and nothing less, its byte
strings up to their caps; so do the portmapper's lists and the calls around the messages. -/
theorem wire_format_reads_back :
    (Faithful CreateLinkParms.encode CreateLinkParms.decode
        (fun m => m.device.length ≤ deviceNameMax.toNat) ∧
      Capped CreateLinkParms.encode CreateLinkParms.decode CreateLinkParms.device deviceNameMax) ∧
    Faithful CreateLinkResp.encode CreateLinkResp.decode (fun _ => True) ∧
    (∀ maxData, Faithful DeviceWriteParms.encode (DeviceWriteParms.decode maxData)
        (fun m => m.data.length ≤ maxData.toNat) ∧
      Capped DeviceWriteParms.encode (DeviceWriteParms.decode maxData) DeviceWriteParms.data
        maxData) ∧
    Faithful DeviceWriteResp.encode DeviceWriteResp.decode (fun _ => True) ∧
    Faithful DeviceReadParms.encode DeviceReadParms.decode (fun _ => True) ∧
    (∀ maxData, Faithful DeviceReadResp.encode (DeviceReadResp.decode maxData)
        (fun m => m.data.length ≤ maxData.toNat) ∧
      Capped DeviceReadResp.encode (DeviceReadResp.decode maxData) DeviceReadResp.data maxData) ∧
    Faithful DeviceGenericParms.encode DeviceGenericParms.decode (fun _ => True) ∧
    Faithful DeviceReadStbResp.encode DeviceReadStbResp.decode (fun _ => True) ∧
    Faithful DeviceLockParms.encode DeviceLockParms.decode (fun _ => True) ∧
    (Faithful DeviceEnableSrqParms.encode DeviceEnableSrqParms.decode
        (fun m => m.handle.length ≤ srqHandleMax.toNat) ∧
      Capped DeviceEnableSrqParms.encode DeviceEnableSrqParms.decode DeviceEnableSrqParms.handle
        srqHandleMax) ∧
    Faithful DeviceRemoteFunc.encode DeviceRemoteFunc.decode (fun _ => True) ∧
    (Faithful DeviceSrqParms.encode DeviceSrqParms.decode
        (fun m => m.handle.length ≤ srqHandleMax.toNat) ∧
      Capped DeviceSrqParms.encode DeviceSrqParms.decode DeviceSrqParms.handle srqHandleMax) ∧
    (Faithful DeviceDocmdParms.encode DeviceDocmdParms.decode
        (fun m => m.dataIn.length ≤ docmdDataMax.toNat) ∧
      Capped DeviceDocmdParms.encode DeviceDocmdParms.decode DeviceDocmdParms.dataIn
        docmdDataMax) ∧
    (Faithful DeviceDocmdResp.encode DeviceDocmdResp.decode
        (fun m => m.dataOut.length ≤ docmdDataMax.toNat) ∧
      Capped DeviceDocmdResp.encode DeviceDocmdResp.decode DeviceDocmdResp.dataOut
        docmdDataMax) ∧
    Faithful encodeDeviceError decodeDeviceError (fun _ => True) ∧
    Faithful Mapping.encode (Cursor.decode Mapping.decode) (fun _ => True) ∧
    Faithful encodeGetportReply (Cursor.decode Cursor.u32) (fun _ => True) ∧
    Faithful encodeDumpReply decodeDumpReply (fun _ => True) ∧
    ∀ xid prog vers proc,
      (∀ args, decodeCall (encodeCall xid prog vers proc args) =
        .ok ({ xid, prog, vers, proc }, args)) ∧
      ∀ front, front <+: encodeHeader { xid, prog, vers, proc } →
        front ≠ encodeHeader { xid, prog, vers, proc } →
        decodeCall front = .error (.garbled .truncated) := by
  refine ⟨⟨CreateLinkParms.faithful, CreateLinkParms.capped⟩, CreateLinkResp.faithful,
    fun maxData => ⟨DeviceWriteParms.faithful maxData, DeviceWriteParms.capped maxData⟩,
    DeviceWriteResp.faithful, DeviceReadParms.faithful,
    fun maxData => ⟨DeviceReadResp.faithful maxData, DeviceReadResp.capped maxData⟩,
    DeviceGenericParms.faithful, DeviceReadStbResp.faithful, DeviceLockParms.faithful,
    ⟨DeviceEnableSrqParms.faithful, DeviceEnableSrqParms.capped⟩, DeviceRemoteFunc.faithful,
    ⟨DeviceSrqParms.faithful, DeviceSrqParms.capped⟩,
    ⟨DeviceDocmdParms.faithful, DeviceDocmdParms.capped⟩,
    ⟨DeviceDocmdResp.faithful, DeviceDocmdResp.capped⟩, deviceError_faithful, mapping_faithful,
    getportReply_faithful, dumpReply_faithful, fun xid prog vers proc => ?_⟩
  have hheader := callHeader_reads { xid, prog, vers, proc }
  exact ⟨hheader.whole, hheader.cut⟩

end Ugpibd.Vxi11.Rpc
