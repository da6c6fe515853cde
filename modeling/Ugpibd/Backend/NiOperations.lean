import Ugpibd.Backend.NiData
import Ugpibd.Backend.Operations

/-! The NI backend: what each operation sends to the adapter and what it keeps of the bus. Packets are
told apart as the encoders make them; of the control transfers, which do not touch the bus, only the
re-arming of the service-request monitor is kept. -/
namespace Ugpibd.Backend.NiUsbHs
open Library Operation Interruptible
open Ni (niusbDataReadOp niusbRegReadId niusbRegisterReadDataStartId niusbRegisterReadDataEndId)

def niusbRegWriteId : UInt8 := 0x09
def niusbIbsicId : UInt8 := 0x0f
def niUsbWaitRequest : UInt8 := 0x21
def ibstaSrqi : UInt16 := 0x1000

def subdevTnt4882 : UInt8 := 1
def subdevUnknown2 : UInt8 := 2
def subdevUnknown3 : UInt8 := 3

def regAdmr : UInt8 := 0x08
def regAuxmr : UInt8 := 0x0a
def regAdr : UInt8 := 0x0c
def regAuxcr : UInt8 := 0x06
def regImr1 : UInt8 := 0x02
def regImr2 : UInt8 := 0x04
def regImr3 : UInt8 := 0x12
def regImr0 : UInt8 := 0x1d
def regHssel : UInt8 := 0x0d
def regCmdr : UInt8 := 0x1c
def regKeyreg : UInt8 := 0x17
def regBsr : UInt8 := 0x1f
def regDir : UInt8 := 0x00
def regIsr1 : UInt8 := 0x02
def isr1Di : UInt8 := 0x01

def cmdrGo : UInt8 := 0x04
def cmdrStop : UInt8 := 0x08
def cmdrSoftReset : UInt8 := 0x22
def cmdrSetsc : UInt8 := 0x03
def cmdrClrsc : UInt8 := 0x02

def auxPon : UInt8 := 0x00
def auxCppf : UInt8 := 0x01
def auxCr : UInt8 := 0x02
def auxFh : UInt8 := 0x03
def auxDsc : UInt8 := 0x14
def auxCifc : UInt8 := 0x16
def auxCren : UInt8 := 0x17
def auxSren : UInt8 := 0x1f
def auxHldi : UInt8 := 0x51
def auxra : UInt8 := 0x80
def hrHlda : UInt8 := 0x01
def hrBin : UInt8 := 0x10
def auxrb : UInt8 := 0xa0
def hrTri : UInt8 := 0x04
def auxrg : UInt8 := 0x40
def ntnlBit : UInt8 := 0x08
def auxri : UInt8 := 0xe0
def sisb : UInt8 := 0x01
def ustd : UInt8 := 0x08
def mstd : UInt8 := 0x20
def tntOneChipBit : UInt8 := 0x01
def tntImr0AlwaysBits : UInt8 := 0x80
def hrLon : UInt8 := 0x40
def adrDisableSad : UInt8 := 0xe0
def admrDisableSad : UInt8 := 0x31

def gpibGtl : UInt8 := 0x01
def gpibSdc : UInt8 := 0x04
def gpibGet : UInt8 := 0x08
def gpibSpe : UInt8 := 0x18
def gpibSpd : UInt8 := 0x19
def gpibLlo : UInt8 := 0x11
def gpibUnl : UInt8 := 0x3f
def gpibUnt : UInt8 := 0x5f

def listenAddress (pad : UInt8) : UInt8 := 0x20 ||| (pad &&& 0x1f)
def talkAddress (pad : UInt8) : UInt8 := 0x40 ||| (pad &&& 0x1f)

/-- One register access: write `value` to the register of the logical device. -/
structure NiRegister where
  device : UInt8
  address : UInt8
  value : UInt8
  deriving DecidableEq, Repr

/-- The requests the encoders build, with what they are given. A data read carries a write of the
chip's clear-END command after it. -/
inductive Packet
  | takeControl
  | goToStandby
  | interfaceClear
  | command (bytes : List UInt8) (timeoutCode : UInt8)
  | dataWrite (data : List UInt8) (sendEoi : Bool) (timeoutCode : UInt8)
  | dataRead (len : Nat) (eosMode : UInt16) (eosChar timeoutCode : UInt8)
  | registerWrite (regs : List NiRegister)
  | registerRead (regs : List (UInt8 × UInt8))
  | rearmSrq (mask : UInt16)
  deriving DecidableEq, Repr

/-- The leading id byte; a control transfer has its request instead. -/
def Packet.op : Packet → UInt8
  | .takeControl => niusbIbcacId
  | .goToStandby => niusbIbgtsId
  | .interfaceClear => niusbIbsicId
  | .command .. => niusbCommandOp
  | .dataWrite .. => niusbDataWriteOp
  | .dataRead .. => niusbDataReadOp
  | .registerWrite _ => niusbRegWriteId
  | .registerRead _ => niusbRegReadId
  | .rearmSrq _ => niUsbWaitRequest

/-- The adapter's timeout steps as milliseconds and code, longest first. -/
def timeoutStepsMs : List (Nat × UInt8) :=
  [(1000000, 0x02), (300000, 0x01), (100000, 0xff), (30000, 0xfe), (10000, 0xfd), (3000, 0xfc),
    (1000, 0xfb), (300, 0xfa), (100, 0xf9), (30, 0xf8), (10, 0xf7), (3, 0xf6), (1, 0xf5)]

/-- The code of the largest step at or below the timeout; none is wait for ever. -/
def timeoutCodeFloor (timeoutMs : Nat) : UInt8 :=
  if timeoutMs = 0 then 0xf0
  else match timeoutStepsMs.find? (·.1 ≤ timeoutMs) with
    | some (_, code) => code
    | none => 0xf5

def setupT1Delay (ns : Nat) : List NiRegister :=
  [⟨subdevTnt4882, regAuxmr, auxri ||| sisb ||| if ns ≤ 1100 then ustd else 0⟩,
    ⟨subdevTnt4882, regAuxmr, auxrb ||| if ns ≤ 500 then hrTri else 0⟩,
    ⟨subdevTnt4882, regKeyreg, if ns ≤ 350 then mstd else 0⟩]

def setupDisableSad : List NiRegister :=
  [⟨subdevTnt4882, regAdr, adrDisableSad⟩, ⟨subdevTnt4882, regAdmr, admrDisableSad⟩,
    ⟨subdevUnknown2, 0x01, 0x00⟩]

/-- The bit of AUXRA that goes with an EOS mode. -/
def binaryEos (eosMode : UInt16) : UInt8 := if eosMode &&& 0x0400 ≠ 0 then hrBin else 0

/-- The register sequence that brings the chip up as system controller at `pad`. -/
def setupInit (pad : UInt8) (eosMode : UInt16) : List NiRegister :=
  let auxra := auxra ||| hrHlda ||| binaryEos eosMode
  [⟨subdevUnknown3, 0x10, 0x00⟩, ⟨subdevTnt4882, regCmdr, cmdrSoftReset⟩,
    ⟨subdevTnt4882, regAuxmr, auxra⟩, ⟨subdevTnt4882, regAuxcr, auxra⟩,
    ⟨subdevTnt4882, regHssel, tntOneChipBit⟩, ⟨subdevTnt4882, regAuxmr, auxCr⟩,
    ⟨subdevTnt4882, regImr0, tntImr0AlwaysBits⟩, ⟨subdevTnt4882, regImr1, 0x00⟩,
    ⟨subdevTnt4882, regImr2, 0x00⟩, ⟨subdevTnt4882, regImr3, 0x00⟩,
    ⟨subdevTnt4882, regAuxmr, auxHldi⟩] ++ setupT1Delay 500 ++
  [⟨subdevTnt4882, regAuxmr, auxrg ||| ntnlBit⟩, ⟨subdevTnt4882, regCmdr, cmdrSetsc⟩,
    ⟨subdevTnt4882, regAuxmr, auxCifc⟩, ⟨subdevTnt4882, regAdr, pad &&& 0x1f⟩,
    ⟨subdevUnknown2, 0x00, pad &&& 0x1f⟩] ++ setupDisableSad ++
  [⟨subdevUnknown2, 0x02, 0xfd⟩, ⟨subdevTnt4882, 0x0f, 0x11⟩, ⟨subdevTnt4882, regAuxmr, auxPon⟩,
    ⟨subdevTnt4882, regAuxmr, auxCppf⟩]

inductive RegisterWriteFailure
  | length (len : Nat)
  | badId (id : UInt8)
  | errorCode (code : UInt8)
  | completed (count len : Nat)
  deriving DecidableEq, Repr

def RegisterWriteFailure.text : RegisterWriteFailure → Text
  | .length len =>
    fixedThen "ni register-write response must be 16 bytes, got " (decimal len)
  | .badId id => fixedThen "ni register-write bad id: " (hexByte id)
  | .errorCode code => fixedThen "ni register-write error code " (hexByte code)
  | .completed count len => .cons "ni register write: ".toList (decimal count)
      (.cons " of ".toList (decimal len) (fixed " completed"))

/-- A write of so many registers is answered with how many were written, which must be all of them. -/
def parseRegisterWriteResponse (buf : List UInt8) (len : Nat) : Except RegisterWriteFailure Unit :=
  if buf.length ≠ 16 then .error (.length buf.length)
  else if buf.getD 0 0 ≠ niusbRegWriteId then .error (.badId (buf.getD 0 0))
  else if buf.getD 3 0 ≠ 0 then .error (.errorCode (buf.getD 3 0))
  else if (buf.getD 8 0).toNat ≠ len then .error (.completed (buf.getD 8 0).toNat len)
  else .ok ()

inductive RegisterReadFailure
  | missingStart (i : Nat)
  | truncated
  | missingEnd (i : Nat)
  deriving DecidableEq, Repr

def RegisterReadFailure.text : RegisterReadFailure → Text
  | .missingStart i => fixedThen "ni register-read: missing chunk start id at offset " (decimal i)
  | .truncated => fixed "ni register-read truncated"
  | .missingEnd i => fixedThen "ni register-read: missing end id at offset " (decimal i)

/-- So many values, three to a chunk; with them where the chunks end. -/
def registerReadChunks (buf : List UInt8) :
    Nat → Nat → Nat → Except RegisterReadFailure (List UInt8 × Nat)
  | 0, i, _ => .ok ([], i)
  | fuel + 1, i, num =>
    if num = 0 then .ok ([], i)
    else if buf[i]? ≠ some niusbRegisterReadDataStartId then .error (.missingStart i)
    else
      let n := min num 3
      let chunk := (buf.drop (i + 1)).take n
      if chunk.length < n then .error .truncated
      else do
        let (rest, j) ← registerReadChunks buf fuel (i + 1 + n) (num - n)
        pure (chunk ++ rest, j)

def parseRegisterReadResponse (buf : List UInt8) (num : Nat) :
    Except RegisterReadFailure (List UInt8) := do
  let (out, i) ← registerReadChunks buf num 0 num
  let i := (i + 3) / 4 * 4
  if buf[i]? ≠ some niusbRegisterReadDataEndId then throw (.missingEnd i)
  pure out

/-- The backend: what writes and reads look at, and its settings. `hsPlus` is the model the transport
has. -/
structure NiUsbHsBackend extends Controller where
  eosChar : UInt8 := 0x0a
  eosEnabled : Bool := false
  timeoutMs : Nat
  hsPlus : Bool := false
  deriving DecidableEq, Repr

namespace NiUsbHsBackend

def eosMode (s : NiUsbHsBackend) : UInt16 := if s.eosEnabled then 0x0400 else 0

/-- Whatever addressing a read set up is no longer good for skipping. -/
def forget (s : NiUsbHsBackend) : NiUsbHsBackend := { s with readAddressing := none }

end NiUsbHsBackend

variable {E : Type} (usb : UsbErrors E)

abbrev Op (E α : Type) := Operation NiUsbHsBackend Packet E α

def exchange (packet : Packet) : Op E (List UInt8) := do
  send packet
  Operation.usb (·.text usb) (transact packet.op)

/-- The command bytes, 16 at a time. How many the adapter placed is not looked at. -/
def commandTransfers (timeoutCode : UInt8) : Nat → List UInt8 → Op E Unit
  | 0, _ => pure ()
  | fuel + 1, cmd => do
    if cmd ≠ [] then
      let chunk := cmd.take maxCommandLen
      let resp ← exchange usb (.command chunk timeoutCode)
      let _ ← (ofExcept (·.text) (parseWriteResponse resp chunk.length)).context
        "ni command byte transfer"
      commandTransfers timeoutCode fuel (cmd.drop maxCommandLen)

def sendCommandBounded (cmd : List UInt8) (standbyAfter : Bool) (timeoutMs : Nat) : Op E Unit := do
  update .forget
  let _ ← exchange usb .takeControl
  commandTransfers usb (timeoutCodeFloor timeoutMs) cmd.length cmd
  if standbyAfter then
    let _ ← exchange usb .goToStandby

def sendCommandNow (cmd : List UInt8) (standbyAfter : Bool) : Op E Unit := do
  sendCommandBounded usb cmd standbyAfter (← fields).timeoutMs

/-- The data half of a write, with what is past the adapter's length field split. -/
def dataWrites (sendEoi : Bool) (timeoutCode : UInt8) : Nat → List UInt8 → Op E Unit
  | fuel, remaining => do
    let chunk := remaining.take maxTransferLen
    let rest := remaining.drop maxTransferLen
    let resp ← exchange usb (.dataWrite chunk (sendEoi && rest.isEmpty) timeoutCode)
    let written ← (ofExcept (·.text) (parseWriteResponse resp chunk.length)).context "ni data write"
    bailIf (written ≠ chunk.length) (.cons "ni data write: instrument accepted only ".toList
      (decimal written) (.cons " of ".toList (decimal chunk.length) (fixed " bytes")))
    match fuel with
    | 0 => pure ()
    | fuel + 1 => if rest.isEmpty then pure () else dataWrites sendEoi timeoutCode fuel rest

theorem dataWrites_eq (sendEoi : Bool) (timeoutCode : UInt8) (fuel : Nat) (remaining : List UInt8) :
    dataWrites usb sendEoi timeoutCode fuel remaining = (do
      let chunk := remaining.take maxTransferLen
      let rest := remaining.drop maxTransferLen
      let resp ← exchange usb (.dataWrite chunk (sendEoi && rest.isEmpty) timeoutCode)
      let written ← (ofExcept (·.text) (parseWriteResponse resp chunk.length)).context
        "ni data write"
      bailIf (written ≠ chunk.length) (.cons "ni data write: instrument accepted only ".toList
        (decimal written) (.cons " of ".toList (decimal chunk.length) (fixed " bytes")))
      match fuel with
      | 0 => pure ()
      | fuel + 1 =>
        if rest.isEmpty then pure () else dataWrites usb sendEoi timeoutCode fuel rest) := by
  cases fuel <;> rfl

def writeData (data : List UInt8) (sendEoi : Bool) : Op E Unit := do
  dataWrites usb sendEoi (timeoutCodeFloor (← fields).timeoutMs) data.length data

def readData (maxLen : Nat) : Op E Received := do
  let s ← fields
  let maxLen := min maxLen maxTransferLen
  let resp ← exchange usb
    (.dataRead maxLen s.eosMode s.eosChar (timeoutCodeFloor s.timeoutMs))
  let (data, ended) ← (ofExcept (·.text) (parseDataReadResponse resp maxLen)).context "ni data read"
  pure { data, ended }

def registerWrite (regs : List NiRegister) : Op E Unit := do
  let resp ← exchange usb (.registerWrite regs)
  ofExcept (·.text) (parseRegisterWriteResponse resp regs.length)

def registerRead (regs : List (UInt8 × UInt8)) : Op E (List UInt8) := do
  let resp ← exchange usb (.registerRead regs)
  ofExcept (·.text) (parseRegisterReadResponse resp regs.length)

/-- A vendor control transfer; its wait is bounded. -/
def controlTransfer (what : String) : Op E (List UInt8) :=
  Operation.usb id do
    match ← transfer with
    | .completed data => pure data
    | .failed error => throw (Text.context what (.last (usb.display error)))
    | .late => throw (Text.context what (.last usb.cancelled))

def controlIn : Op E (List UInt8) := controlTransfer usb "ni control-in failed"
def controlInInterface : Op E (List UInt8) := controlTransfer usb "ni interface control-in failed"

/-- The adapter's interrupt monitor reports once and is armed again. -/
def rearmSrq (mask : UInt16) : Op E Unit := do
  send (.rearmSrq mask)
  let _ ← controlIn usb

def maxConsecutiveErrors : Nat := 5

/-- The adapter is ready when one of three bytes of its status is set. -/
def isReady (status : List UInt8) : Bool :=
  decide (11 ≤ status.length) &&
    (status.getD 6 0 != 0 || status.getD 7 0 != 0 || status.getD 10 0 != 0)

def pollReady : Nat → Nat → Op E Unit
  | 0, _ => bail (fixed "NI adapter did not report ready after 5s of polling")
  | left + 1, consecutiveErrors => do
    match ← attempt (controlIn usb) with
    | .ok status => if isReady status then pure () else pollReady left 0
    | .error e =>
      if consecutiveErrors + 1 ≥ maxConsecutiveErrors then
        bail (.cons "NI adapter is not answering control requests (".toList
          (decimal (consecutiveErrors + 1)) (Text.context " consecutive failures); last error" e))
      else pollReady left (consecutiveErrors + 1)

/-- The serial number is asked for first, and its reply is only logged. -/
def waitForReady : Op E Unit := do
  let _ ← attempt (controlIn usb)
  pollReady usb 50 0

/-- Three vendor reads whose replies are only logged; only the one model wants them. -/
def hsPlusExtraInit : Op E Unit := do
  if (← fields).hsPlus then
    let _ ← controlIn usb
    let _ ← controlIn usb
    let _ ← controlInInterface usb

def setInterruptMonitor : Op E Unit := do
  let reply ← (controlIn usb).context "ni interrupt-monitor request failed"
  bailIf (reply.length ≠ 8) (fixedThen "ni interrupt-monitor: expected an 8-byte status block, got "
    (decimal reply.length))

namespace NiUsbHsBackend

def ifc : Op E Unit := do
  update .forget
  let _ ← exchange usb .interfaceClear

def ren (enable : Bool) : Op E Unit :=
  registerWrite usb [⟨subdevTnt4882, regAuxmr, if enable then auxSren else auxCren⟩]

def init (myPad : UInt8) : Op E Unit := do
  update fun s => { s with myPad, readAddressing := none }
  waitForReady usb
  hsPlusExtraInit usb
  (registerWrite usb (setupInit myPad (← fields).eosMode)).context "ni init register sequence"
  (ifc usb).context "ni init: interface clear"
  (ren usb true).context "ni init: assert REN"
  -- no acceptor on an empty bus: a failure here is only logged
  let _ ← attempt (sendCommandBounded usb [gpibUnl, talkAddress myPad] false 100)
  -- a freshly plugged adapter loses its first data write
  let _ ← attempt (exchange usb (.dataWrite [0x00] false (timeoutCodeFloor 10)))
  setInterruptMonitor usb

def write (pad : UInt8) (data : List UInt8) (sendEoi : Bool) : Op E Unit := do
  bailIf (← fields).listenOnly (fixed "cannot write while in listen-only mode (++lon 0 to leave)")
  bailIf (← fields).deviceAddress.isSome
    (fixed "cannot write while in device mode: we are not the controller")
  sendCommandNow usb [gpibUnl, talkAddress (← fields).myPad, listenAddress pad] true
  writeData usb data sendEoi

/-- The addressing a read wants; a talk-only source has no address to name. -/
def wantedAddressing (s : NiUsbHsBackend) (pad : UInt8) : ReadAddressing :=
  ⟨if s.listenOnly then none else some pad, s.myPad⟩

end NiUsbHsBackend

/-- The command bytes that set the addressing up. -/
def ReadAddressing.bytes (addressing : ReadAddressing) : List UInt8 :=
  match addressing.talker with
  | none => [gpibUnl, listenAddress addressing.listener]
  | some pad => [gpibUnl, listenAddress addressing.listener, talkAddress pad]

namespace NiUsbHsBackend

/-- Address only when the bus is not already set up this way: command bytes mean ATN, and ATN costs
any byte the chip is holding. -/
def addressRead (want : ReadAddressing) : Op E Unit := do
  if (← fields).readAddressing ≠ some want then
    sendCommandNow usb want.bytes true
    update fun s => { s with readAddressing := some want }

/-- As a device the backend takes what the controller addresses it to receive. -/
def read (pad : UInt8) (maxLen : Nat) : Op E Received := do
  let s ← fields
  if s.deviceAddress.isSome then
    readData usb maxLen
  else
    addressRead usb (s.wantedAddressing pad)
    readData usb maxLen

def deviceClear (pad : UInt8) : Op E Unit :=
  sendCommandNow usb [gpibUnl, listenAddress pad, gpibSdc] false

def goToRemote (pad : UInt8) : Op E Unit := do
  ren usb true
  sendCommandNow usb [gpibUnl, listenAddress pad] false

def goToLocal (pad : UInt8) : Op E Unit :=
  sendCommandNow usb [gpibUnl, listenAddress pad, gpibGtl] false

def localLockout : Op E Unit := sendCommandNow usb [gpibLlo] false

def trigger (pad : UInt8) : Op E Unit :=
  sendCommandNow usb [gpibUnl, listenAddress pad, gpibGet] false

def readyAcceptor : Op E Unit :=
  (registerWrite usb [⟨subdevTnt4882, regAuxmr, auxFh⟩, ⟨subdevTnt4882, regCmdr, cmdrGo⟩]).context
    "ni: readying the acceptor"

def restoreAcceptor : Op E Unit :=
  (registerWrite usb [⟨subdevTnt4882, regCmdr, cmdrStop⟩]).context "ni: restoring the acceptor"

def takeHeldByte : Op E (Option UInt8) := do
  let regs ← registerRead usb [(subdevTnt4882, regIsr1), (subdevTnt4882, regDir)]
  pure (if regs.getD 0 0 &&& isr1Di ≠ 0 then some (regs.getD 1 0) else none)

/-- The chip is looked at again until the deadline, so many times after the first. -/
def takeStatusByte : Nat → Op E UInt8
  | 0 => do
    match ← (takeHeldByte usb).context "ni serial poll: reading the status byte" with
    | some byte => pure byte
    | none => bail (fixed "the instrument sent no status byte in response to the poll")
  | looks + 1 => do
    match ← (takeHeldByte usb).context "ni serial poll: reading the status byte" with
    | some byte => pure byte
    | none => takeStatusByte looks

/-- What was there before the poll is put back whether or not the byte arrives; each step of it is
made even when the one before fails. -/
def serialPoll (pad : UInt8) (looks : Nat) : Op E UInt8 := do
  sendCommandNow usb
    [gpibUnl, gpibSpe, talkAddress pad, listenAddress (← fields).myPad] false
  readyAcceptor usb
  let polled ← attempt do
    let _ ← exchange usb .goToStandby
    takeStatusByte usb looks
  let stopped ← attempt (restoreAcceptor usb)
  let disabled ← attempt (sendCommandNow usb [gpibSpd, gpibUnt] false)
  -- a monitor that is not armed again is only logged
  let _ ← attempt (rearmSrq usb ibstaSrqi)
  let stb ← ofExcept
    (fun e => .cons "ni serial poll of pad ".toList (decimal pad.toNat) (.cons [] colon e)) polled
  (ofExcept id stopped).context "ni serial poll: restoring the bus after the poll"
  (ofExcept id disabled).context "ni serial poll: restoring the bus after the poll"
  pure stb

def sendDataUnaddressed (data : List UInt8) (sendEoi : Bool) : Op E Unit := do
  bailIf (← fields).listenOnly (fixed "cannot write while in listen-only mode (++lon 0 to leave)")
  writeData usb data sendEoi

def readUnaddressed (maxLen : Nat) : Op E Received := readData usb maxLen

def setControllerPad (pad : UInt8) : Op E Unit := do
  bailIf (pad > 30)
    (.cons "controller address ".toList (decimal pad.toNat) (fixed " is out of range (0-30)"))
  (registerWrite usb [⟨subdevTnt4882, regAdr, pad &&& 0x1f⟩]).context "ni set controller address"
  update fun s => { s with myPad := pad, readAddressing := none }

def sendBusCommand (cmds : List UInt8) : Op E Unit := sendCommandNow usb cmds true

def setAtn (assert : Bool) : Op E Unit := do
  update .forget
  let _ ← exchange usb (if assert then .takeControl else .goToStandby)

/-- Leaving is not the inverse of entering: the controller is brought up again. -/
def setListenOnly (enable : Bool) : Op E Unit := do
  update .forget
  if enable then
    (registerWrite usb [⟨subdevTnt4882, regAdmr, admrDisableSad ||| hrLon⟩,
      ⟨subdevTnt4882, regAuxmr, auxra ||| binaryEos (← fields).eosMode⟩,
      ⟨subdevTnt4882, regAuxmr, auxFh⟩]).context "ni enter listen-only"
    update fun s => { s with listenOnly := true }
  else
    update fun s => { s with listenOnly := false }
    (init usb (← fields).myPad).context "ni leave listen-only"

def setDeviceMode (address : Option UInt8) : Op E Unit := do
  update .forget
  match address with
  | none =>
    update fun s => { s with deviceAddress := none }
    (init usb (← fields).myPad).context "ni leave device mode"
  | some addr =>
    bailIf (addr > 30)
      (.cons "device address ".toList (decimal addr.toNat) (fixed " is out of range (0-30)"))
    (registerWrite usb [⟨subdevTnt4882, regAdr, addr &&& 0x1f⟩, ⟨subdevTnt4882, regAuxmr, auxCren⟩,
      ⟨subdevTnt4882, regAuxmr, auxCifc⟩, ⟨subdevTnt4882, regAuxmr, auxDsc⟩,
      ⟨subdevTnt4882, regCmdr, cmdrClrsc⟩]).context "ni enter device mode"
    update fun s => { s with deviceAddress := some addr, listenOnly := false }

/-- The bus status register, whose bits are the control lines. -/
def busLines : Op E UInt8 := do
  let vals ← (registerRead usb [(subdevTnt4882, regBsr)]).context "ni bus status read"
  match vals with
  | [] => bail (fixed "ni bus status read returned no data")
  | bsr :: _ => pure bsr

def setEos (eosChar : UInt8) (enabled : Bool) : Op E Unit :=
  update fun s => { s with eosChar, eosEnabled := enabled }

def setTimeout (timeoutMs : Nat) : Op E Unit := update fun s => { s with timeoutMs }

end NiUsbHsBackend

/-- The calls the front ends make. -/
inductive Call
  | init (myPad : UInt8)
  | write (pad : UInt8) (data : List UInt8) (sendEoi : Bool)
  | read (pad : UInt8) (maxLen : Nat)
  | deviceClear (pad : UInt8)
  | trigger (pad : UInt8)
  | ifc
  | ren (enable : Bool)
  | goToRemote (pad : UInt8)
  | goToLocal (pad : UInt8)
  | localLockout
  | serialPoll (pad : UInt8) (looks : Nat)
  | busLines
  | setListenOnly (enable : Bool)
  | setDeviceMode (address : Option UInt8)
  | sendBusCommand (cmds : List UInt8)
  | setAtn (assert : Bool)
  | setControllerPad (pad : UInt8)
  | sendDataUnaddressed (data : List UInt8) (sendEoi : Bool)
  | readUnaddressed (maxLen : Nat)
  | setEos (eosChar : UInt8) (enabled : Bool)
  | setTimeout (timeoutMs : Nat)
  deriving DecidableEq, Repr

/-- The call without what it returns. -/
def Call.op : Call → Op E Unit
  | .init myPad => NiUsbHsBackend.init usb myPad
  | .write pad data sendEoi => NiUsbHsBackend.write usb pad data sendEoi
  | .read pad maxLen => do let _ ← NiUsbHsBackend.read usb pad maxLen
  | .deviceClear pad => NiUsbHsBackend.deviceClear usb pad
  | .trigger pad => NiUsbHsBackend.trigger usb pad
  | .ifc => NiUsbHsBackend.ifc usb
  | .ren enable => NiUsbHsBackend.ren usb enable
  | .goToRemote pad => NiUsbHsBackend.goToRemote usb pad
  | .goToLocal pad => NiUsbHsBackend.goToLocal usb pad
  | .localLockout => NiUsbHsBackend.localLockout usb
  | .serialPoll pad looks => do let _ ← NiUsbHsBackend.serialPoll usb pad looks
  | .busLines => do let _ ← NiUsbHsBackend.busLines usb
  | .setListenOnly enable => NiUsbHsBackend.setListenOnly usb enable
  | .setDeviceMode address => NiUsbHsBackend.setDeviceMode usb address
  | .sendBusCommand cmds => NiUsbHsBackend.sendBusCommand usb cmds
  | .setAtn assert => NiUsbHsBackend.setAtn usb assert
  | .setControllerPad pad => NiUsbHsBackend.setControllerPad usb pad
  | .sendDataUnaddressed data sendEoi => NiUsbHsBackend.sendDataUnaddressed usb data sendEoi
  | .readUnaddressed maxLen => do let _ ← NiUsbHsBackend.readUnaddressed usb maxLen
  | .setEos eosChar enabled => NiUsbHsBackend.setEos eosChar enabled
  | .setTimeout timeoutMs => NiUsbHsBackend.setTimeout timeoutMs

abbrev NiPort (E : Type) := Port NiUsbHsBackend Packet E

/-- How the call ends when its transfers are answered so. -/
def Call.exec (call : Call) (answers : List (Answer E)) (port : NiPort E) :
    Option (Except Text Unit) × NiPort E := (call.op usb).exec { port with answers }

/-- One call after another; each comes with the answers its transfers get. -/
def step (port : NiPort E) (call : Call × List (Answer E)) : Option (NiPort E) :=
  some (call.1.exec usb call.2 port).2

/-- What an exchange gets when nothing goes wrong: the request is taken, and the reply names it. -/
def accepts (op : UInt8) : List (Answer E) := [.completed [], .completed [op, 0, 0, 0, 0, 0, 0, 0]]

def acceptsRegisters (count : UInt8) : List (Answer E) :=
  [.completed [], .completed [niusbRegWriteId, 0, 0, 0, 0, 0, 0, 0, count, 0, 0, 0, 0, 0, 0, 0]]

def acceptsInit : List (Answer E) :=
  [.completed [], .completed [0, 0, 0, 0, 0, 0, 1, 0, 0, 0, 0]] ++ acceptsRegisters 26 ++
    accepts niusbIbsicId ++ acceptsRegisters 1 ++ accepts niusbIbcacId ++ accepts niusbCommandOp ++
    accepts niusbDataWriteOp ++ [.completed [0, 0, 0, 0, 0, 0, 0, 0]]

def acceptsAddressing : List (Answer E) :=
  accepts niusbIbcacId ++ accepts niusbCommandOp ++ accepts niusbIbgtsId

/-- A backend that was just made. -/
def newPort (timeoutMs : Nat) (hsPlus : Bool) : NiPort E := { ctrl := { timeoutMs, hsPlus } }

/-- The same with the answers its next transfers get. -/
def answered (answers : List (Answer E)) : NiPort E := { ctrl := { timeoutMs := 3000 }, answers }

end Ugpibd.Backend.NiUsbHs
