import Ugpibd.Vxi11.Xdr

/-! The RPC structures of the core, abort and interrupt channels. The order of similar fields
differs from one structure to the next, as the protocol has it. -/
namespace Ugpibd.Vxi11.Messages
open Library Xdr

/-- What a codec promises of the messages that fit: an encoding is read back whatever follows it,
and less than all of it is refused as truncated. -/
structure Faithful {α : Type} (encode : α → List UInt8) (decode : List UInt8 → Except XdrError α)
    (fits : α → Prop) : Prop where
  whole : ∀ m, fits m → ∀ trailing, decode (encode m ++ trailing) = .ok m
  cut : ∀ m, fits m → ∀ front, front <+: encode m → front ≠ encode m →
    decode front = .error .truncated

/-- A field over its cap has the whole message refused, with its length and the cap. -/
def Capped {α : Type} (encode : α → List UInt8) (decode : List UInt8 → Except XdrError α)
    (field : α → List UInt8) (cap : UInt32) : Prop :=
  ∀ m, cap.toNat < (field m).length → (field m).length < 2 ^ 32 → ∀ trailing,
    decode (encode m ++ trailing) = .error (.tooLong (UInt32.ofNat (field m).length) cap)

section
variable {α : Type} {encode : α → List UInt8} {cursor : Cursor α} {fits : α → Prop}
  {field : α → List UInt8} {cap : UInt32}

theorem faithful_of_reads (h : ∀ m, fits m → Reads .truncated cursor (encode m) m) :
    Faithful encode (Cursor.decode cursor) fits where
  whole := by
    intro m hfits trailing
    rw [Cursor.decode, (h m hfits).whole]
    rfl
  cut := by
    intro m hfits front hfront hne
    rw [Cursor.decode, (h m hfits).cut front hfront hne]
    rfl

theorem capped_of_refuses (h : ∀ m, cap.toNat < (field m).length → (field m).length < 2 ^ 32 →
      Refuses cursor (encode m) (.tooLong (UInt32.ofNat (field m).length) cap)) :
    Capped encode (Cursor.decode cursor) field cap := by
  intro m hcap hfits trailing
  rw [Cursor.decode, h m hcap hfits trailing]
  rfl

end

/-- The bound on an `enable_srq` handle. -/
def srqHandleMax : UInt32 := 40

/-- The daemon's own bound on a device name, which the protocol leaves open. -/
def deviceNameMax : UInt32 := 1024

/-- The bound on the data of a `device_docmd`, either way. -/
def docmdDataMax : UInt32 := 4096

structure CreateLinkParms where
  clientId : Int32
  lockDevice : Bool
  lockTimeoutMs : UInt32
  device : List UInt8
  deriving DecidableEq, Repr

namespace CreateLinkParms

def encode (m : CreateLinkParms) : List UInt8 :=
  [putI32 m.clientId, putBool m.lockDevice, putU32 m.lockTimeoutMs, putOpaque m.device].flatten

def decode : List UInt8 → Except XdrError CreateLinkParms :=
  Cursor.decode do
    let clientId ← Cursor.i32
    let lockDevice ← Cursor.bool
    let lockTimeoutMs ← Cursor.u32
    let device ← Cursor.byteString deviceNameMax
    return { clientId, lockDevice, lockTimeoutMs, device }

theorem faithful :
    Faithful encode decode fun m => m.device.length ≤ deviceNameMax.toNat := by
  refine faithful_of_reads fun m hfits => ?_
  refine (Cursor.i32_reads _).bind ?_
  refine (Cursor.bool_reads _).bind ?_
  refine (Cursor.u32_reads _).bind ?_
  refine (Cursor.byteString_reads hfits).bind ?_
  exact reads_pure _ m

theorem capped : Capped encode decode CreateLinkParms.device deviceNameMax := by
  refine capped_of_refuses fun m hcap hfits => ?_
  refine (Cursor.i32_reads _).bind_refuses ?_
  refine (Cursor.bool_reads _).bind_refuses ?_
  refine (Cursor.u32_reads _).bind_refuses ?_
  exact (Cursor.byteString_refuses hcap hfits).bind []

end CreateLinkParms

/-- The abort port is a short, which travels as a whole word. -/
structure CreateLinkResp where
  error : UInt32
  lid : Int32
  abortPort : UInt16
  maxRecvSize : UInt32
  deriving DecidableEq, Repr

namespace CreateLinkResp

def encode (m : CreateLinkResp) : List UInt8 :=
  [putU32 m.error, putI32 m.lid, putU32 m.abortPort.toUInt32, putU32 m.maxRecvSize].flatten

def decode : List UInt8 → Except XdrError CreateLinkResp :=
  Cursor.decode do
    let error ← Cursor.u32
    let lid ← Cursor.i32
    let abortPort ← Cursor.u32
    let maxRecvSize ← Cursor.u32
    return { error, lid, abortPort := abortPort.toUInt16, maxRecvSize }

theorem faithful : Faithful encode decode fun _ => True := by
  refine faithful_of_reads fun m _ => ?_
  refine (Cursor.u32_reads _).bind ?_
  refine (Cursor.i32_reads _).bind ?_
  refine (Cursor.u32_reads _).bind ?_
  refine (Cursor.u32_reads _).bind ?_
  rw [UInt16.toUInt16_toUInt32]
  exact reads_pure _ m

end CreateLinkResp

/-- The cap on the data is the link's `maxRecvSize`. -/
structure DeviceWriteParms where
  lid : Int32
  ioTimeoutMs : UInt32
  lockTimeoutMs : UInt32
  flags : UInt32
  data : List UInt8
  deriving DecidableEq, Repr

namespace DeviceWriteParms

def encode (m : DeviceWriteParms) : List UInt8 :=
  [putI32 m.lid, putU32 m.ioTimeoutMs, putU32 m.lockTimeoutMs,
    putU32 m.flags, putOpaque m.data].flatten

def decode (maxData : UInt32) : List UInt8 → Except XdrError DeviceWriteParms :=
  Cursor.decode do
    let lid ← Cursor.i32
    let ioTimeoutMs ← Cursor.u32
    let lockTimeoutMs ← Cursor.u32
    let flags ← Cursor.u32
    let data ← Cursor.byteString maxData
    return { lid, ioTimeoutMs, lockTimeoutMs, flags, data }

theorem faithful (maxData : UInt32) :
    Faithful encode (decode maxData) fun m => m.data.length ≤ maxData.toNat := by
  refine faithful_of_reads fun m hfits => ?_
  refine (Cursor.i32_reads _).bind ?_
  refine (Cursor.u32_reads _).bind ?_
  refine (Cursor.u32_reads _).bind ?_
  refine (Cursor.u32_reads _).bind ?_
  refine (Cursor.byteString_reads hfits).bind ?_
  exact reads_pure _ m

theorem capped (maxData : UInt32) : Capped encode (decode maxData) DeviceWriteParms.data maxData := by
  refine capped_of_refuses fun m hcap hfits => ?_
  refine (Cursor.i32_reads _).bind_refuses ?_
  refine (Cursor.u32_reads _).bind_refuses ?_
  refine (Cursor.u32_reads _).bind_refuses ?_
  refine (Cursor.u32_reads _).bind_refuses ?_
  exact (Cursor.byteString_refuses hcap hfits).bind []

end DeviceWriteParms

structure DeviceWriteResp where
  error : UInt32
  size : UInt32
  deriving DecidableEq, Repr

namespace DeviceWriteResp

def encode (m : DeviceWriteResp) : List UInt8 :=
  [putU32 m.error, putU32 m.size].flatten

def decode : List UInt8 → Except XdrError DeviceWriteResp :=
  Cursor.decode do
    let error ← Cursor.u32
    let size ← Cursor.u32
    return { error, size }

theorem faithful : Faithful encode decode fun _ => True := by
  refine faithful_of_reads fun m _ => ?_
  refine (Cursor.u32_reads _).bind ?_
  refine (Cursor.u32_reads _).bind ?_
  exact reads_pure _ m

end DeviceWriteResp

structure DeviceReadParms where
  lid : Int32
  requestSize : UInt32
  ioTimeoutMs : UInt32
  lockTimeoutMs : UInt32
  flags : UInt32
  termChar : Int32
  deriving DecidableEq, Repr

namespace DeviceReadParms

def encode (m : DeviceReadParms) : List UInt8 :=
  [putI32 m.lid, putU32 m.requestSize, putU32 m.ioTimeoutMs, putU32 m.lockTimeoutMs,
    putU32 m.flags, putI32 m.termChar].flatten

def decode : List UInt8 → Except XdrError DeviceReadParms :=
  Cursor.decode do
    let lid ← Cursor.i32
    let requestSize ← Cursor.u32
    let ioTimeoutMs ← Cursor.u32
    let lockTimeoutMs ← Cursor.u32
    let flags ← Cursor.u32
    let termChar ← Cursor.i32
    return { lid, requestSize, ioTimeoutMs, lockTimeoutMs, flags, termChar }

theorem faithful : Faithful encode decode fun _ => True := by
  refine faithful_of_reads fun m _ => ?_
  refine (Cursor.i32_reads _).bind ?_
  refine (Cursor.u32_reads _).bind ?_
  refine (Cursor.u32_reads _).bind ?_
  refine (Cursor.u32_reads _).bind ?_
  refine (Cursor.u32_reads _).bind ?_
  refine (Cursor.i32_reads _).bind ?_
  exact reads_pure _ m

end DeviceReadParms

structure DeviceReadResp where
  error : UInt32
  reason : UInt32
  data : List UInt8
  deriving DecidableEq, Repr

namespace DeviceReadResp

def encode (m : DeviceReadResp) : List UInt8 :=
  [putU32 m.error, putU32 m.reason, putOpaque m.data].flatten

def decode (maxData : UInt32) : List UInt8 → Except XdrError DeviceReadResp :=
  Cursor.decode do
    let error ← Cursor.u32
    let reason ← Cursor.u32
    let data ← Cursor.byteString maxData
    return { error, reason, data }

theorem faithful (maxData : UInt32) :
    Faithful encode (decode maxData) fun m => m.data.length ≤ maxData.toNat := by
  refine faithful_of_reads fun m hfits => ?_
  refine (Cursor.u32_reads _).bind ?_
  refine (Cursor.u32_reads _).bind ?_
  refine (Cursor.byteString_reads hfits).bind ?_
  exact reads_pure _ m

theorem capped (maxData : UInt32) : Capped encode (decode maxData) DeviceReadResp.data maxData := by
  refine capped_of_refuses fun m hcap hfits => ?_
  refine (Cursor.u32_reads _).bind_refuses ?_
  refine (Cursor.u32_reads _).bind_refuses ?_
  exact (Cursor.byteString_refuses hcap hfits).bind []

end DeviceReadResp

/-- The timeouts stand the other way round than in `Device_WriteParms`. -/
structure DeviceGenericParms where
  lid : Int32
  flags : UInt32
  lockTimeoutMs : UInt32
  ioTimeoutMs : UInt32
  deriving DecidableEq, Repr

namespace DeviceGenericParms

def encode (m : DeviceGenericParms) : List UInt8 :=
  [putI32 m.lid, putU32 m.flags, putU32 m.lockTimeoutMs, putU32 m.ioTimeoutMs].flatten

def decode : List UInt8 → Except XdrError DeviceGenericParms :=
  Cursor.decode do
    let lid ← Cursor.i32
    let flags ← Cursor.u32
    let lockTimeoutMs ← Cursor.u32
    let ioTimeoutMs ← Cursor.u32
    return { lid, flags, lockTimeoutMs, ioTimeoutMs }

theorem faithful : Faithful encode decode fun _ => True := by
  refine faithful_of_reads fun m _ => ?_
  refine (Cursor.i32_reads _).bind ?_
  refine (Cursor.u32_reads _).bind ?_
  refine (Cursor.u32_reads _).bind ?_
  refine (Cursor.u32_reads _).bind ?_
  exact reads_pure _ m

end DeviceGenericParms

structure DeviceReadStbResp where
  error : UInt32
  stb : UInt8
  deriving DecidableEq, Repr

namespace DeviceReadStbResp

def encode (m : DeviceReadStbResp) : List UInt8 :=
  [putU32 m.error, putU32 m.stb.toUInt32].flatten

def decode : List UInt8 → Except XdrError DeviceReadStbResp :=
  Cursor.decode do
    let error ← Cursor.u32
    let stb ← Cursor.u32
    return { error, stb := stb.toUInt8 }

theorem faithful : Faithful encode decode fun _ => True := by
  refine faithful_of_reads fun m _ => ?_
  refine (Cursor.u32_reads _).bind ?_
  refine (Cursor.u32_reads _).bind ?_
  rw [UInt8.toUInt8_toUInt32]
  exact reads_pure _ m

end DeviceReadStbResp

structure DeviceLockParms where
  lid : Int32
  flags : UInt32
  lockTimeoutMs : UInt32
  deriving DecidableEq, Repr

namespace DeviceLockParms

def encode (m : DeviceLockParms) : List UInt8 :=
  [putI32 m.lid, putU32 m.flags, putU32 m.lockTimeoutMs].flatten

def decode : List UInt8 → Except XdrError DeviceLockParms :=
  Cursor.decode do
    let lid ← Cursor.i32
    let flags ← Cursor.u32
    let lockTimeoutMs ← Cursor.u32
    return { lid, flags, lockTimeoutMs }

theorem faithful : Faithful encode decode fun _ => True := by
  refine faithful_of_reads fun m _ => ?_
  refine (Cursor.i32_reads _).bind ?_
  refine (Cursor.u32_reads _).bind ?_
  refine (Cursor.u32_reads _).bind ?_
  exact reads_pure _ m

end DeviceLockParms

structure DeviceEnableSrqParms where
  lid : Int32
  enable : Bool
  handle : List UInt8
  deriving DecidableEq, Repr

namespace DeviceEnableSrqParms

def encode (m : DeviceEnableSrqParms) : List UInt8 :=
  [putI32 m.lid, putBool m.enable, putOpaque m.handle].flatten

def decode : List UInt8 → Except XdrError DeviceEnableSrqParms :=
  Cursor.decode do
    let lid ← Cursor.i32
    let enable ← Cursor.bool
    let handle ← Cursor.byteString srqHandleMax
    return { lid, enable, handle }

theorem faithful :
    Faithful encode decode fun m => m.handle.length ≤ srqHandleMax.toNat := by
  refine faithful_of_reads fun m hfits => ?_
  refine (Cursor.i32_reads _).bind ?_
  refine (Cursor.bool_reads _).bind ?_
  refine (Cursor.byteString_reads hfits).bind ?_
  exact reads_pure _ m

theorem capped : Capped encode decode DeviceEnableSrqParms.handle srqHandleMax := by
  refine capped_of_refuses fun m hcap hfits => ?_
  refine (Cursor.i32_reads _).bind_refuses ?_
  refine (Cursor.bool_reads _).bind_refuses ?_
  exact (Cursor.byteString_refuses hcap hfits).bind []

end DeviceEnableSrqParms

structure DeviceRemoteFunc where
  hostAddr : UInt32
  hostPort : UInt16
  progNum : UInt32
  progVers : UInt32
  progFamily : UInt32
  deriving DecidableEq, Repr

namespace DeviceRemoteFunc

def encode (m : DeviceRemoteFunc) : List UInt8 :=
  [putU32 m.hostAddr, putU32 m.hostPort.toUInt32, putU32 m.progNum,
    putU32 m.progVers, putU32 m.progFamily].flatten

def decode : List UInt8 → Except XdrError DeviceRemoteFunc :=
  Cursor.decode do
    let hostAddr ← Cursor.u32
    let hostPort ← Cursor.u32
    let progNum ← Cursor.u32
    let progVers ← Cursor.u32
    let progFamily ← Cursor.u32
    return { hostAddr, hostPort := hostPort.toUInt16, progNum, progVers, progFamily }

theorem faithful : Faithful encode decode fun _ => True := by
  refine faithful_of_reads fun m _ => ?_
  refine (Cursor.u32_reads _).bind ?_
  refine (Cursor.u32_reads _).bind ?_
  refine (Cursor.u32_reads _).bind ?_
  refine (Cursor.u32_reads _).bind ?_
  refine (Cursor.u32_reads _).bind ?_
  rw [UInt16.toUInt16_toUInt32]
  exact reads_pure _ m

end DeviceRemoteFunc

structure DeviceSrqParms where
  handle : List UInt8
  deriving DecidableEq, Repr

namespace DeviceSrqParms

def encode (m : DeviceSrqParms) : List UInt8 :=
  [putOpaque m.handle].flatten

def decode : List UInt8 → Except XdrError DeviceSrqParms :=
  Cursor.decode do
    let handle ← Cursor.byteString srqHandleMax
    return { handle }

theorem faithful :
    Faithful encode decode fun m => m.handle.length ≤ srqHandleMax.toNat := by
  refine faithful_of_reads fun m hfits => ?_
  refine (Cursor.byteString_reads hfits).bind ?_
  exact reads_pure _ m

theorem capped : Capped encode decode DeviceSrqParms.handle srqHandleMax := by
  refine capped_of_refuses fun m hcap hfits => ?_
  exact (Cursor.byteString_refuses hcap hfits).bind []

end DeviceSrqParms

structure DeviceDocmdParms where
  lid : Int32
  flags : UInt32
  ioTimeoutMs : UInt32
  lockTimeoutMs : UInt32
  cmd : Int32
  networkOrder : Bool
  datasize : Int32
  dataIn : List UInt8
  deriving DecidableEq, Repr

namespace DeviceDocmdParms

def encode (m : DeviceDocmdParms) : List UInt8 :=
  [putI32 m.lid, putU32 m.flags, putU32 m.ioTimeoutMs, putU32 m.lockTimeoutMs, putI32 m.cmd,
    putBool m.networkOrder, putI32 m.datasize, putOpaque m.dataIn].flatten

def decode : List UInt8 → Except XdrError DeviceDocmdParms :=
  Cursor.decode do
    let lid ← Cursor.i32
    let flags ← Cursor.u32
    let ioTimeoutMs ← Cursor.u32
    let lockTimeoutMs ← Cursor.u32
    let cmd ← Cursor.i32
    let networkOrder ← Cursor.bool
    let datasize ← Cursor.i32
    let dataIn ← Cursor.byteString docmdDataMax
    return { lid, flags, ioTimeoutMs, lockTimeoutMs, cmd, networkOrder, datasize, dataIn }

theorem faithful :
    Faithful encode decode fun m => m.dataIn.length ≤ docmdDataMax.toNat := by
  refine faithful_of_reads fun m hfits => ?_
  refine (Cursor.i32_reads _).bind ?_
  refine (Cursor.u32_reads _).bind ?_
  refine (Cursor.u32_reads _).bind ?_
  refine (Cursor.u32_reads _).bind ?_
  refine (Cursor.i32_reads _).bind ?_
  refine (Cursor.bool_reads _).bind ?_
  refine (Cursor.i32_reads _).bind ?_
  refine (Cursor.byteString_reads hfits).bind ?_
  exact reads_pure _ m

theorem capped : Capped encode decode DeviceDocmdParms.dataIn docmdDataMax := by
  refine capped_of_refuses fun m hcap hfits => ?_
  refine (Cursor.i32_reads _).bind_refuses ?_
  refine (Cursor.u32_reads _).bind_refuses ?_
  refine (Cursor.u32_reads _).bind_refuses ?_
  refine (Cursor.u32_reads _).bind_refuses ?_
  refine (Cursor.i32_reads _).bind_refuses ?_
  refine (Cursor.bool_reads _).bind_refuses ?_
  refine (Cursor.i32_reads _).bind_refuses ?_
  exact (Cursor.byteString_refuses hcap hfits).bind []

end DeviceDocmdParms

structure DeviceDocmdResp where
  error : UInt32
  dataOut : List UInt8
  deriving DecidableEq, Repr

namespace DeviceDocmdResp

def encode (m : DeviceDocmdResp) : List UInt8 :=
  [putU32 m.error, putOpaque m.dataOut].flatten

def decode : List UInt8 → Except XdrError DeviceDocmdResp :=
  Cursor.decode do
    let error ← Cursor.u32
    let dataOut ← Cursor.byteString docmdDataMax
    return { error, dataOut }

theorem faithful :
    Faithful encode decode fun m => m.dataOut.length ≤ docmdDataMax.toNat := by
  refine faithful_of_reads fun m hfits => ?_
  refine (Cursor.u32_reads _).bind ?_
  refine (Cursor.byteString_reads hfits).bind ?_
  exact reads_pure _ m

theorem capped : Capped encode decode DeviceDocmdResp.dataOut docmdDataMax := by
  refine capped_of_refuses fun m hcap hfits => ?_
  refine (Cursor.u32_reads _).bind_refuses ?_
  exact (Cursor.byteString_refuses hcap hfits).bind []

end DeviceDocmdResp

def encodeDeviceError (error : UInt32) : List UInt8 := putU32 error

def decodeDeviceError : List UInt8 → Except XdrError UInt32 := Cursor.decode Cursor.u32

theorem deviceError_faithful : Faithful encodeDeviceError decodeDeviceError fun _ => True :=
  faithful_of_reads fun error _ => Cursor.u32_reads error

end Ugpibd.Vxi11.Messages
