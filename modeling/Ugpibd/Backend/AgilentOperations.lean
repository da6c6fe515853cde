import Ugpibd.Backend.AgilentData
import Ugpibd.Backend.Operations

/-! The 82357 backend: what each operation sends to the adapter and what it keeps. -/
namespace Ugpibd.Backend.Agilent
open Library Operation Interruptible

def ugpErrFlushing : UInt8 := 0x06
def xferAbort : UInt8 := 0xa0

def regHwControl : UInt8 := 0x0a
def regLedControl : UInt8 := 0x0b
def regResetToPowerup : UInt8 := 0x0c
def regProtocolControl : UInt8 := 0x0d
def regFastTalkerT1 : UInt8 := 0x0e
def notTiReset : UInt8 := 0x01
def systemController : UInt8 := 0x02
def notParallelPoll : UInt8 := 0x04
def firmwareLedControl : UInt8 := 0x01
def failLedOn : UInt8 := 0x20
def writeCompleteInterruptEn : UInt8 := 0x01
def resetSpaceball : UInt8 := 0x01

def tmsBsr : UInt8 := 0x03
def tmsImr0 : UInt8 := 0x00
def tmsImr1 : UInt8 := 0x01
def tmsAuxcr : UInt8 := 0x03
def tmsAdr : UInt8 := 0x04
def tmsSpmr : UInt8 := 0x05
def tmsPpr : UInt8 := 0x06

def auxCs : UInt8 := 0x80
def auxChipReset : UInt8 := 0x00
def auxInval : UInt8 := 0x01
def auxHlda : UInt8 := 0x03
def auxHlde : UInt8 := 0x04
def auxNbaf : UInt8 := 0x05
def auxLon : UInt8 := 0x09
def auxVal : UInt8 := 0x81
def auxTon : UInt8 := 0x0a
def auxGts : UInt8 := 0x0b
def auxTca : UInt8 := 0x0c
def auxRpp : UInt8 := 0x0e
def auxSic : UInt8 := 0x0f
def auxSre : UInt8 := 0x10
def auxRqc : UInt8 := 0x11
def auxStdl : UInt8 := 0x15
def auxVstdl : UInt8 := 0x17
def auxRsv2 : UInt8 := 0x18

def hrBoie : UInt8 := 0x10
def hrBiie : UInt8 := 0x20
def hrSrqie : UInt8 := 0x02
def addressMask : UInt8 := 0x1f

def gpibUnl : UInt8 := 0x3f
def gpibUnt : UInt8 := 0x5f
def gpibGtl : UInt8 := 0x01
def gpibLlo : UInt8 := 0x11
def gpibSdc : UInt8 := 0x04
def gpibGet : UInt8 := 0x08
def gpibSpe : UInt8 := 0x18
def gpibSpd : UInt8 := 0x19

def listenAddress (pad : UInt8) : UInt8 := 0x20 ||| (pad &&& addressMask)
def talkAddress (pad : UInt8) : UInt8 := 0x40 ||| (pad &&& addressMask)

/-- The packets of the bulk-out pipe, with what their encoders are given. -/
inductive Packet
  | wrRegs (regs : List RegisterPairlet)
  | rdRegs (addrs : List UInt8)
  | gpibCommand (cmd : List UInt8)
  | gpibWrite (data : List UInt8) (sendEoi : Bool)
  | gpibRead (maxLen : Nat) (eosEnabled : Bool) (eosChar : UInt8) (endOnEoi : Bool)
  deriving DecidableEq, Repr

structure GpibController extends Controller where
  eosChar : UInt8 := 0x0a
  eosEnabled : Bool := false
  hwControlBits : UInt8 := 0
  myPad : UInt8 := 0
  deriving DecidableEq, Repr

/-- Stale replies are read and discarded, eight at most. -/
def drainBulkIn {E ε : Type} : Nat → Usb E ε Unit
  | 0 => pure ()
  | left + 1 => do
    match ← transfer with
    | .completed (_ :: _) => drainBulkIn left
    | _ => pure ()

variable {E : Type} (usb : UsbErrors E)

abbrev Op (E α : Type) := Operation GpibController Packet E α

namespace GpibController

def writeBulk (packet : Packet) : Op E Unit := do
  send packet
  Operation.usb (·.text usb) Agilent.writeBulk

def writeRegisters (regs : List RegisterPairlet) : Op E Unit := do
  send (.wrRegs regs)
  Operation.usb (·.text usb) Agilent.writeRegisters

def bulkInFailed {α : Type} (error : E) : Op E α :=
  bail (Text.context "bulk-in failed" (.last (usb.display error)))

def readRegisters (regs : List RegisterPairlet) : Op E (List RegisterPairlet) := do
  writeBulk usb (.rdRegs (regs.map (·.address)))
  match ← Operation.usb id transfer with
  | .completed resp => ofExcept (·.text) (decodeRdRegsResponse resp regs)
  | .failed error => bulkInFailed usb error
  | .late => bail (fixed "RD_REGS bulk-in timed out")

def controlIn : Op E (List UInt8) := do
  match ← Operation.usb id transfer with
  | .completed resp => pure resp
  | .failed error => bail (Text.context "control-in failed" (.last (usb.display error)))
  | .late => bail (Text.context "control-in failed" (.last usb.cancelled))

def abort (flush : Bool) : Op E Unit := do
  let resp ← controlIn usb
  bailIf (resp.length < 2)
    (.cons "XFER_ABORT response too short: ".toList (decimal resp.length) (fixed " bytes"))
  bailIf (resp.getD 0 0 ≠ ~~~xferAbort) (.cons "XFER_ABORT bad response byte: got ".toList
    (hex (resp.getD 0 0)) (fixedThen ", expected " (hex (~~~xferAbort))))
  -- "already flushing" is fine when a flush was asked for
  bailIf (resp.getD 1 0 ≠ ugpSuccess ∧ ¬(resp.getD 1 0 = ugpErrFlushing ∧ flush))
    (fixedThen "XFER_ABORT returned error " (hex (resp.getD 1 0)))

def ifc : Op E Unit := do
  writeRegisters usb [⟨tmsAuxcr, auxSic ||| auxCs⟩]
  writeRegisters usb [⟨tmsAuxcr, auxSic⟩]

def ren (enable : Bool) : Op E Unit :=
  writeRegisters usb [⟨tmsAuxcr, if enable then auxSre ||| auxCs else auxSre⟩]

/-- What comes of its steps is not looked at: the caller is already failing. -/
def recoverFromStall : Op E Unit := do
  let _ ← attempt (abort usb true)
  let _ ← Operation.usb id transfer
  let _ ← attempt (abort usb false)
  let _ ← attempt (ifc usb)

def recovering (p : Op E Unit) : Op E Unit := do
  match ← attempt p with
  | .ok () => pure ()
  | .error e =>
    recoverFromStall usb
    bail e

/-- `send_command_bytes` and `send_data_bytes`, which differ in their packet only. -/
def sendBytes (packet : Packet) : Op E Unit := do
  writeBulk usb packet
  recovering usb (Operation.usb (·.text usb) awaitWriteComplete)
  recovering usb (Operation.usb (·.text usb) getXferStatus)

def sendCommandBytes (cmd : List UInt8) : Op E Unit := sendBytes usb (.gpibCommand cmd)

def sendDataBytes (data : List UInt8) (sendEoi : Bool) : Op E Unit :=
  sendBytes usb (.gpibWrite data sendEoi)

/-- The same without the recovery, which ends with an interface clear. -/
def tryCommandBytes (cmd : List UInt8) : Op E Unit := do
  writeBulk usb (.gpibCommand cmd)
  Operation.usb (·.text usb) awaitWriteComplete
  Operation.usb (·.text usb) getXferStatus

/-- The fail LED is lit and the adapter reset. -/
def initBatch1 : List RegisterPairlet := [⟨regLedControl, failLedOn⟩, ⟨regResetToPowerup, resetSpaceball⟩]

/-- The fast-talker T1 bits for 800 ns. -/
def t1Bits : UInt8 := UInt8.ofNat (max 0x11 (min (800 / 21) 0x72))

def initBatch2 (myPad : UInt8) : List RegisterPairlet :=
  [⟨tmsAuxcr, auxNbaf⟩, ⟨tmsAuxcr, auxHlde⟩, ⟨tmsAuxcr, auxTon⟩, ⟨tmsAuxcr, auxLon⟩,
    ⟨tmsAuxcr, auxRsv2⟩, ⟨tmsAuxcr, auxInval⟩, ⟨tmsAuxcr, auxRpp⟩, ⟨tmsAuxcr, auxStdl⟩,
    ⟨tmsAuxcr, auxVstdl⟩, ⟨regFastTalkerT1, t1Bits⟩, ⟨tmsAdr, myPad &&& addressMask⟩, ⟨tmsPpr, 0⟩,
    ⟨tmsSpmr, 0⟩, ⟨regProtocolControl, writeCompleteInterruptEn⟩, ⟨tmsImr0, hrBoie ||| hrBiie⟩,
    ⟨tmsImr1, hrSrqie⟩, ⟨tmsAuxcr, auxChipReset⟩, ⟨regLedControl, firmwareLedControl⟩]

def requestSystemControl : Op E Unit := do
  update fun s => { s with hwControlBits := s.hwControlBits ||| systemController }
  writeRegisters usb [⟨tmsAuxcr, auxRqc⟩, ⟨regHwControl, (← fields).hwControlBits⟩]

/-- The hardware control bits that are read back, as the adapter is to have them. -/
def hwControl (hw : List RegisterPairlet) : UInt8 :=
  ((hw.getD 0 ⟨regHwControl, 0⟩).value &&& ~~~0x07) ||| notTiReset ||| notParallelPoll

def init (myPad : UInt8) : Op E Unit := do
  update fun s => { s with myPad }
  Operation.usb id (drainBulkIn 8)
  writeRegisters usb initBatch1
  writeRegisters usb (initBatch2 myPad)
  let hw ← readRegisters usb [⟨regHwControl, 0⟩]
  update fun s => { s with hwControlBits := hwControl hw }
  requestSystemControl usb
  ifc usb
  ren usb true

def deviceClear (pad : UInt8) : Op E Unit :=
  sendCommandBytes usb [gpibUnl, listenAddress pad, gpibSdc]

def goToRemote (pad : UInt8) : Op E Unit := do
  ren usb true
  sendCommandBytes usb [gpibUnl, listenAddress pad]

def goToLocal (pad : UInt8) : Op E Unit :=
  sendCommandBytes usb [gpibUnl, listenAddress pad, gpibGtl]

def localLockout : Op E Unit := sendCommandBytes usb [gpibLlo]

def trigger (pad : UInt8) : Op E Unit :=
  sendCommandBytes usb [gpibUnl, listenAddress pad, gpibGet]

def write (pad : UInt8) (data : List UInt8) (sendEoi : Bool) : Op E Unit := do
  bailIf (← fields).listenOnly (fixed "cannot write while in listen-only mode (++lon 0 to leave)")
  sendCommandBytes usb [gpibUnl, talkAddress 0, listenAddress pad]
  sendDataBytes usb data sendEoi

/-- What ends a read that has no data to give. -/
def recoverRead {α : Type} (fail : Op E α) : Op E α := do
  recoverFromStall usb
  fail

def readTimedOut {α : Type} (timeoutMs : Nat) : Op E α :=
  bail (.cons "gpib read timed out after ".toList (decimal timeoutMs) (fixed " ms"))

/-- A capture's read that was not there in time: an abort makes the adapter hand over what it has.
The bus is not cleared when it does not. -/
def salvage (timeoutMs : Nat) : Op E Received := do
  let _ ← attempt (controlIn usb)
  let outcome ← Operation.usb id transfer
  let _ ← attempt (abort usb false)
  match outcome with
  | .completed raw => pure (decodeGpibReadResponse raw)
  | .failed error => recoverRead usb (bulkInFailed usb error)
  | .late =>
    let _ ← attempt (abort usb true)
    let _ ← attempt (abort usb false)
    Operation.usb id (drainBulkIn 8)
    readTimedOut timeoutMs

def readDataBody (maxLen : Nat) : Op E Received := do
  writeRegisters usb [⟨tmsAuxcr, auxGts⟩]
  let s ← fields
  writeBulk usb (.gpibRead maxLen s.eosEnabled s.eosChar true)
  match ← Operation.usb id transfer with
  | .completed raw => pure (decodeGpibReadResponse raw)
  | .failed error => recoverRead usb (bulkInFailed usb error)
  | .late =>
    if s.listenOnly then salvage usb s.timeoutMs
    else recoverRead usb (readTimedOut s.timeoutMs)

/-- In listen-only the backend was addressed when the mode was entered. -/
def addressRead (pad : UInt8) : Op E Unit := do
  if !(← fields).listenOnly then
    sendCommandBytes usb [gpibUnl, listenAddress 0, talkAddress pad]

def read (pad : UInt8) (maxLen : Nat) : Op E Received := do
  addressRead usb pad
  readDataBody usb maxLen

/-- A poll that failed still takes the bus out of serial-poll mode. -/
def pollFailed (fail : Op E UInt8) : Op E UInt8 := do
  recoverFromStall usb
  let _ ← attempt (sendCommandBytes usb [gpibSpd, gpibUnt])
  fail

def serialPoll (pad : UInt8) : Op E UInt8 := do
  -- we are the controller at pad 0
  sendCommandBytes usb [gpibUnl, gpibSpe, talkAddress pad, listenAddress 0]
  writeRegisters usb [⟨tmsAuxcr, auxGts⟩]
  writeBulk usb (.gpibRead 1 false 0 true)
  match ← Operation.usb id transfer with
  | .completed raw =>
    sendCommandBytes usb [gpibSpd, gpibUnt]
    match (decodeGpibReadResponse raw).data with
    | [] => bail (.cons "serial poll of pad ".toList (decimal pad.toNat)
        (fixed " returned no status byte"))
    | stb :: _ => pure stb
  | .failed error => pollFailed usb (bulkInFailed usb error)
  | .late => pollFailed usb (bail (.cons "serial poll of pad ".toList (decimal pad.toNat)
      (.cons " timed out after ".toList (decimal (← fields).timeoutMs) (fixed " ms"))))

/-- The backend announces itself as a listener; whether it was heard is not looked at, and the adapter
is got out of that send either way. -/
def announceListener : Op E Unit := do
  let _ ← attempt (tryCommandBytes usb [gpibUnl, listenAddress 0])
  let _ ← attempt (abort usb true)
  let _ ← attempt (abort usb false)
  Operation.usb id (drainBulkIn 8)

/-- Addressing first, the mode bit last. -/
def setListenOnly (enable : Bool) : Op E Unit := do
  if enable then
    announceListener usb
    writeRegisters usb [⟨tmsAuxcr, auxLon ||| auxCs⟩, ⟨tmsAuxcr, auxHlda ||| auxCs⟩,
      ⟨tmsAuxcr, auxVal⟩, ⟨tmsAuxcr, auxGts⟩]
    update fun s => { s with listenOnly := true }
  else
    writeRegisters usb [⟨tmsAuxcr, auxLon⟩, ⟨tmsAuxcr, auxHlda⟩]
    update fun s => { s with listenOnly := false }

def busLines : Op E UInt8 := do
  let regs ← readRegisters usb [⟨tmsBsr, 0⟩]
  pure (regs.getD 0 ⟨tmsBsr, 0⟩).value

def sendDataUnaddressed (data : List UInt8) (sendEoi : Bool) : Op E Unit := do
  bailIf (← fields).listenOnly (fixed "cannot write while in listen-only mode (++lon 0 to leave)")
  sendDataBytes usb data sendEoi

def readUnaddressed (maxLen : Nat) : Op E Received := readDataBody usb maxLen

def setControllerPad (pad : UInt8) : Op E Unit := do
  bailIf (pad > 30)
    (.cons "controller address ".toList (decimal pad.toNat) (fixed " is out of range (0-30)"))
  (writeRegisters usb [⟨tmsAdr, pad &&& addressMask⟩]).context "82357 set controller address"
  update fun s => { s with myPad := pad }

def sendBusCommand (cmds : List UInt8) : Op E Unit := sendCommandBytes usb cmds

def setAtn (assert : Bool) : Op E Unit :=
  (writeRegisters usb [⟨tmsAuxcr, if assert then auxTca else auxGts⟩]).context "82357 ATN control"

def setEos (eosChar : UInt8) (enabled : Bool) : Op E Unit :=
  update fun s => { s with eosChar, eosEnabled := enabled }

def setTimeout (timeoutMs : Nat) : Op E Unit := update fun s => { s with timeoutMs }

end GpibController

/-- The calls the front ends make. Device mode is not this backend's. -/
inductive Call
  | init (myPad : UInt8)
  | write (pad : UInt8) (data : List UInt8) (sendEoi : Bool)
  | read (pad : UInt8) (maxLen : Nat)
  | deviceClear (pad : UInt8)
  | trigger (pad : UInt8)
  | ifc
  | ren (enable : Bool)
  | goToRemote (pad : UInt8)
  | goToLocal (pad : UInt8)
  | localLockout
  | serialPoll (pad : UInt8)
  | busLines
  | setListenOnly (enable : Bool)
  | sendBusCommand (cmds : List UInt8)
  | setAtn (assert : Bool)
  | setControllerPad (pad : UInt8)
  | sendDataUnaddressed (data : List UInt8) (sendEoi : Bool)
  | readUnaddressed (maxLen : Nat)
  | setEos (eosChar : UInt8) (enabled : Bool)
  | setTimeout (timeoutMs : Nat)
  deriving DecidableEq, Repr

/-- The call without what it returns. -/
def Call.op : Call → Op E Unit
  | .init myPad => GpibController.init usb myPad
  | .write pad data sendEoi => GpibController.write usb pad data sendEoi
  | .read pad maxLen => do let _ ← GpibController.read usb pad maxLen
  | .deviceClear pad => GpibController.deviceClear usb pad
  | .trigger pad => GpibController.trigger usb pad
  | .ifc => GpibController.ifc usb
  | .ren enable => GpibController.ren usb enable
  | .goToRemote pad => GpibController.goToRemote usb pad
  | .goToLocal pad => GpibController.goToLocal usb pad
  | .localLockout => GpibController.localLockout usb
  | .serialPoll pad => do let _ ← GpibController.serialPoll usb pad
  | .busLines => do let _ ← GpibController.busLines usb
  | .setListenOnly enable => GpibController.setListenOnly usb enable
  | .sendBusCommand cmds => GpibController.sendBusCommand usb cmds
  | .setAtn assert => GpibController.setAtn usb assert
  | .setControllerPad pad => GpibController.setControllerPad usb pad
  | .sendDataUnaddressed data sendEoi => GpibController.sendDataUnaddressed usb data sendEoi
  | .readUnaddressed maxLen => do let _ ← GpibController.readUnaddressed usb maxLen
  | .setEos eosChar enabled => GpibController.setEos eosChar enabled
  | .setTimeout timeoutMs => GpibController.setTimeout timeoutMs

abbrev AgilentPort (E : Type) := Port GpibController Packet E

/-- How the call ends when its transfers are answered so. -/
def Call.exec (call : Call) (answers : List (Answer E)) (port : AgilentPort E) :
    Option (Except Text Unit) × AgilentPort E := (call.op usb).exec { port with answers }

/-- What register accesses get when nothing goes wrong. -/
def acceptsRegisters : List (Answer E) := [.completed [], .completed [~~~wrRegs, ugpSuccess]]

def acceptsInit : List (Answer E) :=
  [.late] ++ acceptsRegisters ++ acceptsRegisters ++
    [.completed [], .completed [~~~rdRegs, ugpSuccess, 0]] ++ acceptsRegisters ++ acceptsRegisters ++
    acceptsRegisters ++ acceptsRegisters

/-- The same for bytes put on the bus. -/
def acceptsBytes : List (Answer E) :=
  [.completed [], .completed [], .completed [0, 0, 0, 0, 0, 0]]

def acceptsListenOnly : List (Answer E) :=
  acceptsBytes ++ [.completed [~~~xferAbort, ugpSuccess], .completed [~~~xferAbort, ugpSuccess], .late] ++
    acceptsRegisters

/-- A controller that was just made. -/
def newPort (timeoutMs : Nat) : AgilentPort E := { ctrl := { timeoutMs } }

/-- The same with the answers its next transfers get. -/
def answered (answers : List (Answer E)) : AgilentPort E := { ctrl := { timeoutMs := 3000 }, answers }

end Ugpibd.Backend.Agilent
