import Ugpibd.Backend.ErrorText
import Ugpibd.Backend.NiTransact

/-! Writes and reads on the NI adapter, with everything that can fail in them. A transfer here is a
whole bulk-out or a whole reply, and requests are told apart by their operation only. -/
namespace Ugpibd.Backend.NiUsbHs
open Ni (replyAnswersRequest maxResync niusbDataReadOp niusbIbrdDataId niusbIbrdExtendedDataId
  niusbIbrdStatusId)

def niusbIbcacId : UInt8 := 0x01
def niusbIbgtsId : UInt8 := 0x06
def niusbCommandOp : UInt8 := 0x0c
def niusbDataWriteOp : UInt8 := 0x0d
def maxTransferLen : Nat := 0xffff
def maxCommandLen : Nat := 16
def ibstaEnd : UInt16 := 0x2000

variable {E : Type}

inductive TransactFailure (E : Type)
  | bulkOutTimedOut
  | bulkOutFailed (error : E)
  | bulkInTimedOut
  | bulkInFailed (error : E)
  | outOfStep
  deriving DecidableEq

namespace TransactFailure

def text (usb : UsbErrors E) : TransactFailure E → Text
  | .bulkOutTimedOut => elapsed.context "ni bulk-out timed out"
  | .bulkOutFailed error => Text.context "ni bulk-out failed" (.last (usb.display error))
  | .bulkInTimedOut => elapsed.context "ni bulk-in timed out"
  | .bulkInFailed error => Text.context "ni bulk-in failed" (.last (usb.display error))
  | .outOfStep =>
    fixed "ni bulk pipe is out of step: 4 replies in a row answered an earlier request"

/-- Did the failing step give up because a wait ran out? -/
def ranOut : TransactFailure E → Bool
  | .bulkOutTimedOut | .bulkInTimedOut => true
  | _ => false

end TransactFailure

def bulkOutLocked : Usb E (TransactFailure E) Unit := do
  match ← transfer with
  | .completed _ => pure ()
  | .failed error => throw (.bulkOutFailed error)
  | .late => throw .bulkOutTimedOut

def bulkInLocked : Usb E (TransactFailure E) (List UInt8) := do
  match ← transfer with
  | .completed data => pure data
  | .failed error => throw (.bulkInFailed error)
  | .late => throw .bulkInTimedOut

/-- Replies to an earlier request are discarded, so many of them. -/
def answerTo (op : UInt8) : Nat → Usb E (TransactFailure E) (List UInt8)
  | 0 => throw .outOfStep
  | left + 1 => do
    let resp ← bulkInLocked
    if replyAnswersRequest [op] resp then pure resp else answerTo op left

def transact (op : UInt8) : Usb E (TransactFailure E) (List UInt8) := do
  bulkOutLocked
  answerTo op maxResync

structure StatusBlock where
  id : UInt8
  ibsta : UInt16
  errorCode : UInt8
  count : UInt16
  deriving DecidableEq, Repr

/-- A buffer that is too short is answered with its length. -/
def parseStatusBlock (buf : List UInt8) : Except Nat StatusBlock :=
  if buf.length < 8 then .error buf.length
  else .ok {
    id := buf.getD 0 0
    ibsta := (buf.getD 1 0).toUInt16 <<< 8 ||| (buf.getD 2 0).toUInt16
    errorCode := buf.getD 3 0
    -- the residual count travels negated
    count := ~~~((buf.getD 4 0).toUInt16 ||| (buf.getD 5 0).toUInt16 <<< 8) + 1 }

inductive WriteResponseFailure
  | statusBlockTooShort (len : Nat)
  | atnState
  | addressing
  | eosMode
  | noBus
  | noListener
  | timeout
  | errorCode (code : UInt8)
  deriving DecidableEq, Repr

namespace WriteResponseFailure

def text : WriteResponseFailure → Text
  | .statusBlockTooShort len =>
    .cons "ni status block too short: ".toList (decimal len) (fixed " bytes")
  | .atnState => fixed "ni write: ATN asserted during transfer"
  | .addressing => fixed "ni write: addressing error (controller not in LACS/TACS)"
  | .eosMode => fixed ("ni write: eos-mode error (bad eos bits, invalid timeout code, " ++
      "or >16 command bytes in one transfer)")
  | .noBus => fixed "ni write: no devices on the GPIB bus"
  | .noListener => fixed "ni write: no listener on bus"
  | .timeout => fixed "ni write: timeout"
  | .errorCode code => fixedThen "ni write: error code " (hexByte code)

def ranOut : WriteResponseFailure → Bool
  | .timeout => true
  | _ => false

end WriteResponseFailure

/-- How many bytes were transferred; one that was aborted keeps its count. -/
def parseWriteResponse (buf : List UInt8) (requested : Nat) : Except WriteResponseFailure Nat :=
  match parseStatusBlock buf with
  | .error len => .error (.statusBlockTooShort len)
  | .ok status => match status.errorCode with
    | 0 | 1 => .ok (requested - status.count.toNat)
    | 2 => .error .atnState
    | 3 => .error .addressing
    | 4 => .error .eosMode
    | 5 => .error .noBus
    | 8 => .error .noListener
    | 10 => .error .timeout
    | code => .error (.errorCode code)

inductive ReadResponseFailure
  | extendedBlock (i : Nat)
  | dataBlockTruncated
  | statusBlockTooShort (len : Nat)
  | badStatusId (id : UInt8)
  | atnState
  | addressing
  | eosMode
  | noBus
  | noListener
  | errorCode (code : UInt8)
  | missingLengthByte
  deriving DecidableEq, Repr

/-- None of them is a timeout: a read the adapter gave up on returns what it has. -/
def ReadResponseFailure.text : ReadResponseFailure → Text
  | .extendedBlock i => fixedThen "ni read: extended block missing zero byte at " (decimal i)
  | .dataBlockTruncated => fixed "ni read: data block truncated"
  | .statusBlockTooShort len =>
    .cons "ni status block too short: ".toList (decimal len) (fixed " bytes")
  | .badStatusId id => fixedThen "ni read: bad status id " (hexByte id)
  | .atnState => fixed "ni read: ATN asserted during transfer"
  | .addressing => fixed "ni read: addressing error (controller not in LACS/TACS)"
  | .eosMode => fixed "ni read: eos-mode error (bad eos bits or an invalid timeout code)"
  | .noBus => fixed "ni read: no devices on the GPIB bus"
  | .noListener => fixed "ni read: no listener on bus"
  | .errorCode code => fixedThen "ni read: error code " (hexByte code)
  | .missingLengthByte => fixed "ni read: missing length byte"

/-- The data blocks of a reply: how many, how long the last kind is, and where they end. -/
structure Blocks where
  i : Nat := 0
  data : List UInt8 := []
  numBlocks : Nat := 0
  blockLen : Nat := 0
  deriving DecidableEq, Repr

def Blocks.take (blocks : Blocks) (buf : List UInt8) (i blockLen : Nat) :
    Except ReadResponseFailure Blocks :=
  if i + blockLen ≤ buf.length then .ok {
    i := i + blockLen
    data := blocks.data ++ (buf.drop i).take blockLen
    numBlocks := blocks.numBlocks + 1
    blockLen }
  else .error .dataBlockTruncated

/-- A reply has fewer blocks than bytes. -/
def readBlocks (buf : List UInt8) : Nat → Blocks → Except ReadResponseFailure Blocks
  | 0, blocks => .ok blocks
  | fuel + 1, blocks =>
    if buf[blocks.i]? = some niusbIbrdDataId then do
      readBlocks buf fuel (← blocks.take buf (blocks.i + 1) 15)
    else if buf[blocks.i]? = some niusbIbrdExtendedDataId then do
      if buf[blocks.i + 1]? ≠ some 0 then throw (.extendedBlock (blocks.i + 1))
      readBlocks buf fuel (← blocks.take buf (blocks.i + 2) 30)
    else .ok blocks

def parseDataReadResponse (buf : List UInt8) (maxLen : Nat) :
    Except ReadResponseFailure (List UInt8 × Bool) := do
  let blocks ← readBlocks buf buf.length {}
  let status ← (parseStatusBlock (buf.drop blocks.i)).mapError .statusBlockTooShort
  if status.id ≠ niusbIbrdStatusId then throw (.badStatusId status.id)
  match status.errorCode with
  | 0 | 1 | 10 => pure ()
  | 2 => throw .atnState
  | 3 => throw .addressing
  | 4 => throw .eosMode
  | 5 => throw .noBus
  | 8 => throw .noListener
  | code => throw (.errorCode code)
  let actual ← if blocks.numBlocks > 0 then
      match buf[blocks.i + 9]? with
      | some tail => pure ((blocks.numBlocks - 1) * blocks.blockLen + tail.toNat)
      | none => throw .missingLengthByte
    else pure 0
  pure (blocks.data.take (min actual maxLen), status.ibsta &&& ibstaEnd != 0)

inductive CommandFailure (E : Type)
  | transact (failure : TransactFailure E)
  | response (failure : WriteResponseFailure)
  deriving DecidableEq

def CommandFailure.text (usb : UsbErrors E) : CommandFailure E → Text
  | .transact failure => failure.text usb
  | .response failure => failure.text.context "ni command byte transfer"

def CommandFailure.ranOut : CommandFailure E → Bool
  | .transact failure => failure.ranOut
  | .response failure => failure.ranOut

/-- The command bytes, 16 at a time. -/
def sendCommandBytes : Nat → Nat → Usb E (CommandFailure E) Unit
  | 0, _ => pure ()
  | fuel + 1, remaining => do
    if remaining ≠ 0 then
      let n := min remaining maxCommandLen
      let resp ← (transact niusbCommandOp).adapt .transact
      let _ ← check .response (parseWriteResponse resp n)
      sendCommandBytes fuel (remaining - n)

def sendCommand (len : Nat) (standbyAfter : Bool) : Usb E (CommandFailure E) Unit := do
  let _ ← (transact niusbIbcacId).adapt CommandFailure.transact
  sendCommandBytes len len
  if standbyAfter then
    let _ ← (transact niusbIbgtsId).adapt CommandFailure.transact

inductive WriteFailure (E : Type)
  | listenOnly
  | deviceMode
  | command (failure : CommandFailure E)
  | transact (failure : TransactFailure E)
  | response (failure : WriteResponseFailure)
  | accepted (written len : Nat)
  deriving DecidableEq

namespace WriteFailure

def text (usb : UsbErrors E) : WriteFailure E → Text
  | .listenOnly => fixed "cannot write while in listen-only mode (++lon 0 to leave)"
  | .deviceMode => fixed "cannot write while in device mode: we are not the controller"
  | .command failure => failure.text usb
  | .transact failure => failure.text usb
  | .response failure => failure.text.context "ni data write"
  | .accepted written len => .cons "ni data write: instrument accepted only ".toList
      (decimal written) (.cons " of ".toList (decimal len) (fixed " bytes"))

def ranOut : WriteFailure E → Bool
  | .command failure => failure.ranOut
  | .transact failure => failure.ranOut
  | .response failure => failure.ranOut
  | _ => false

end WriteFailure

/-- The data half of a write: no addressing, chip already talker. What is past the adapter's length
field is split; nothing at all is still one transfer. -/
def writeDataBody : Nat → Nat → Usb E (WriteFailure E) Unit
  | fuel, remaining => do
    let n := min remaining maxTransferLen
    let resp ← (transact niusbDataWriteOp).adapt WriteFailure.transact
    let written ← check .response (parseWriteResponse resp n)
    if written ≠ n then throw (.accepted written n)
    match fuel with
    | 0 => pure ()
    | fuel + 1 => if remaining - n = 0 then pure () else writeDataBody fuel (remaining - n)

inductive ReadFailure (E : Type)
  | command (failure : CommandFailure E)
  | transact (failure : TransactFailure E)
  | response (failure : ReadResponseFailure)
  deriving DecidableEq

def ReadFailure.text (usb : UsbErrors E) : ReadFailure E → Text
  | .command failure => failure.text usb
  | .transact failure => failure.text usb
  | .response failure => failure.text.context "ni data read"

def ReadFailure.ranOut : ReadFailure E → Bool
  | .command failure => failure.ranOut
  | .transact failure => failure.ranOut
  | .response _ => false

def readDataBody (maxLen : Nat) : Usb E (ReadFailure E) Received := do
  let maxLen := min maxLen maxTransferLen
  let resp ← (transact niusbDataReadOp).adapt ReadFailure.transact
  let (data, ended) ← check .response (parseDataReadResponse resp maxLen)
  pure { data, ended }

/-- The addressing a read set up: who talks, who listens. -/
structure ReadAddressing where
  talker : Option UInt8
  listener : UInt8
  deriving DecidableEq, Repr

/-- What writes and reads look at. -/
structure Controller where
  myPad : UInt8 := 0
  listenOnly : Bool := false
  deviceAddress : Option UInt8 := none
  readAddressing : Option ReadAddressing := none
  deriving DecidableEq, Repr

namespace Controller

def write (s : Controller) (len : Nat) : Usb E (WriteFailure E) Unit := do
  if s.listenOnly then throw .listenOnly
  if s.deviceAddress.isSome then throw .deviceMode
  (sendCommand 3 true).adapt .command
  writeDataBody len len

def read (s : Controller) (pad : UInt8) (maxLen : Nat) :
    Usb E (ReadFailure E) Received := do
  if s.deviceAddress.isNone then
    let want : ReadAddressing := ⟨if s.listenOnly then none else some pad, s.myPad⟩
    if s.readAddressing ≠ some want then
      (sendCommand (if s.listenOnly then 2 else 3) true).adapt .command
  readDataBody maxLen

def sendDataUnaddressed (s : Controller) (len : Nat) : Usb E (WriteFailure E) Unit := do
  if s.listenOnly then throw .listenOnly
  writeDataBody len len

def readUnaddressed (_ : Controller) (maxLen : Nat) : Usb E (ReadFailure E) Received :=
  readDataBody maxLen

end Controller
end Ugpibd.Backend.NiUsbHs
