import Ugpibd.Backend.AgilentRegisters
import Ugpibd.Backend.ErrorText

/-! Writes and reads on the 82357, with everything that can fail in them. What a failed operation does
to recover cannot fail it again and is left out. -/
namespace Ugpibd.Backend.Agilent

def atrfEoi : UInt8 := 0x01
def atrfEos : UInt8 := 0x08
def atrfDeadBus : UInt8 := 0x40
def atrfUnaddressed : UInt8 := 0x80

variable {E : Type}

def ProtocolError.text : ProtocolError → Text
  | .deviceError cmd code => .cons "device returned error code ".toList (hex code)
      (fixedThen " for command " (hex cmd))
  | .badResponse expected got => .cons "unexpected response byte ".toList (hex got)
      (fixedThen ", expected " (hex expected))
  | .shortResponse need got => .cons "response too short: got ".toList (decimal got)
      (fixedThen " bytes, need at least " (decimal need))

/-- What can fail in sending command bytes or data. -/
inductive SendFailure (E : Type)
  | bulkOutFailed (error : E)
  | writeCompleteLate
  | controlInFailed (error : E)
  | controlInLate
  | statusTooShort (len : Nat)
  deriving DecidableEq

namespace SendFailure

def text (usb : UsbErrors E) : SendFailure E → Text
  | .bulkOutFailed error => Text.context "bulk-out failed" (.last (usb.display error))
  | .writeCompleteLate => elapsed.context "timeout waiting for write-complete interrupt"
  | .controlInFailed error => Text.context "control-in failed" (.last (usb.display error))
  | .controlInLate => Text.context "control-in failed" (.last usb.cancelled)
  | .statusTooShort len =>
    .cons "XFER_STATUS response too short: ".toList (decimal len) (fixed " bytes")

def ranOut : SendFailure E → Bool
  | .writeCompleteLate | .controlInLate => true
  | _ => false

end SendFailure

/-- An interrupt that fails is one that does not come. -/
def awaitWriteComplete : Usb E (SendFailure E) Unit := do
  match ← transfer with
  | .completed _ => pure ()
  | _ => throw .writeCompleteLate

def getXferStatus : Usb E (SendFailure E) Unit := do
  match ← transfer with
  | .completed resp => if resp.length < 6 then throw (.statusTooShort resp.length)
  | .failed error => throw (.controlInFailed error)
  | .late => throw .controlInLate

/-- `send_command_bytes` and `send_data_bytes`, which differ in their packet only. -/
def sendBytes : Usb E (SendFailure E) Unit := do
  match ← untimed with
  | .ok _ => pure ()
  | .error error => throw (.bulkOutFailed error)
  awaitWriteComplete
  getXferStatus

inductive WriteFailure (E : Type)
  | listenOnly
  | send (failure : SendFailure E)
  deriving DecidableEq

def WriteFailure.text (usb : UsbErrors E) : WriteFailure E → Text
  | .listenOnly => fixed "cannot write while in listen-only mode (++lon 0 to leave)"
  | .send failure => failure.text usb

def WriteFailure.ranOut : WriteFailure E → Bool
  | .listenOnly => false
  | .send failure => failure.ranOut

inductive ReadFailure (E : Type)
  | send (failure : SendFailure E)
  | registersTimedOut
  | registers (failure : ProtocolError)
  | bulkOutFailed (error : E)
  | bulkInFailed (error : E)
  | timedOut (timeoutMs : Nat)
  deriving DecidableEq

namespace ReadFailure

def text (usb : UsbErrors E) : ReadFailure E → Text
  | .send failure => failure.text usb
  | .registersTimedOut => fixed "WR_REGS bulk-in timed out"
  | .registers failure => failure.text
  | .bulkOutFailed error => Text.context "bulk-out failed" (.last (usb.display error))
  | .bulkInFailed error => Text.context "bulk-in failed" (.last (usb.display error))
  | .timedOut timeoutMs =>
    .cons "gpib read timed out after ".toList (decimal timeoutMs) (fixed " ms")

def ranOut : ReadFailure E → Bool
  | .send failure => failure.ranOut
  | .registersTimedOut | .timedOut _ => true
  | _ => false

end ReadFailure

/-- A write that is not answered at all is not bounded; the answer to a register write is. -/
def writeBulk : Usb E (ReadFailure E) Unit := do
  match ← untimed with
  | .ok _ => pure ()
  | .error error => throw (.bulkOutFailed error)

def writeRegisters : Usb E (ReadFailure E) Unit := do
  writeBulk
  match ← transfer with
  | .completed resp => check .registers (decodeWrRegsResponse resp)
  | .failed error => throw (.bulkInFailed error)
  | .late => throw .registersTimedOut

/-- The last byte of a read's reply is its flags. -/
def decodeGpibReadResponse (raw : List UInt8) : Received :=
  match raw.getLast? with
  | none => { data := [], ended := false }
  | some trailing => {
      data := raw.dropLast
      ended := trailing &&& (atrfEoi ||| atrfEos) != 0
      fault := trailing &&& (atrfDeadBus ||| atrfUnaddressed) != 0 }

/-- What writes and reads look at. -/
structure Controller where
  listenOnly : Bool := false
  timeoutMs : Nat := 3000
  deriving DecidableEq, Repr

namespace Controller

/-- The rest of a transfer that was not there in time: while listening only, an abort makes the
adapter hand over what it has, and a failing abort is not heeded. -/
def salvage (s : Controller) : Usb E (ReadFailure E) Received := do
  if s.listenOnly then
    let _ ← transfer
    match ← transfer with
    | .completed raw => pure (decodeGpibReadResponse raw)
    | .failed error => throw (.bulkInFailed error)
    | .late => throw (.timedOut s.timeoutMs)
  else throw (.timedOut s.timeoutMs)

def readDataBody (s : Controller) : Usb E (ReadFailure E) Received := do
  writeRegisters
  writeBulk
  match ← transfer with
  | .completed raw => pure (decodeGpibReadResponse raw)
  | .failed error => throw (.bulkInFailed error)
  | .late => s.salvage

def write (s : Controller) : Usb E (WriteFailure E) Unit := do
  if s.listenOnly then throw .listenOnly
  -- the addressing, then the data
  sendBytes.adapt .send
  sendBytes.adapt .send

def read (s : Controller) : Usb E (ReadFailure E) Received := do
  if !s.listenOnly then
    sendBytes.adapt .send
  s.readDataBody

def sendDataUnaddressed (s : Controller) : Usb E (WriteFailure E) Unit := do
  if s.listenOnly then throw .listenOnly
  sendBytes.adapt .send

def readUnaddressed (s : Controller) : Usb E (ReadFailure E) Received := s.readDataBody

end Controller
end Ugpibd.Backend.Agilent
