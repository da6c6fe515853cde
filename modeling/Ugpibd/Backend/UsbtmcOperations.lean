import Ugpibd.Backend.Operations
import Ugpibd.Backend.UsbtmcData

/-! The USBTMC backend: its bulk messages, and the handshakes that put right what was left half-done. -/
namespace Ugpibd.Backend.Usbtmc
open Library Operation Interruptible

inductive Endpoint
  | bulkIn
  | bulkOut
  deriving DecidableEq, Repr

/-- The class requests, all of them on the control pipe. -/
inductive Request
  | initiateAbort (endpoint : Endpoint)
  | checkAbortStatus (endpoint : Endpoint)
  | initiateClear
  | checkClearStatus
  | getCapabilities
  | readStatusByte
  | renControl
  | goToLocal
  | localLockout
  deriving DecidableEq, Repr

def Request.name : Request → String
  | .initiateAbort .bulkIn => "INITIATE_ABORT_BULK_IN"
  | .initiateAbort .bulkOut => "INITIATE_ABORT_BULK_OUT"
  | .checkAbortStatus .bulkIn => "CHECK_ABORT_BULK_IN_STATUS"
  | .checkAbortStatus .bulkOut => "CHECK_ABORT_BULK_OUT_STATUS"
  | .initiateClear => "INITIATE_CLEAR"
  | .checkClearStatus => "CHECK_CLEAR_STATUS"
  | .getCapabilities => "GET_CAPABILITIES"
  | .readStatusByte => "READ_STATUS_BYTE"
  | .renControl => "REN_CONTROL"
  | .goToLocal => "GO_TO_LOCAL"
  | .localLockout => "LOCAL_LOCKOUT"

def Request.code : Request → UInt8
  | .initiateAbort .bulkOut => 1
  | .checkAbortStatus .bulkOut => 2
  | .initiateAbort .bulkIn => 3
  | .checkAbortStatus .bulkIn => 4
  | .initiateClear => 5
  | .checkClearStatus => 6
  | .getCapabilities => 7
  | .readStatusByte => 128
  | .renControl => 160
  | .goToLocal => 161
  | .localLockout => 162

/-- The messages of the bulk-OUT pipe. -/
inductive Bulk
  | devDepMsgOut (data : List UInt8) (eom : Bool)
  | requestDevDepMsgIn (want : Nat) (termChar : Option UInt8)
  | trigger
  deriving DecidableEq, Repr

def Bulk.what : Bulk → String
  | .devDepMsgOut .. => "write"
  | .requestDevDepMsgIn .. => "read request"
  | .trigger => "trigger"

def Bulk.isRequest : Bulk → Bool
  | .requestDevDepMsgIn .. => true
  | _ => false

/-- What passes between the backend and the device: a message handed to the bulk pipe and its transfer
done, the reply to a request taken with its data, and what the device says of an abort or a clear.
`stillPending` is an abort that was given up on. -/
inductive Event
  | message (bulk : Bulk) (tag : UInt8)
  | accepted (bulk : Bulk) (tag : UInt8)
  | replied (tag : UInt8) (data : List UInt8)
  | aborted (endpoint : Endpoint) (tag : UInt8)
  | stillPending (endpoint : Endpoint) (tag : UInt8)
  | cleared
  deriving DecidableEq, Repr

/-- What the device advertises, as far as an operation looks at it. -/
structure Capabilities where
  termChar : Bool := false
  bcdUsb488 : UInt16 := 0
  remoteLocal : Bool := false
  trigger : Bool := false
  deriving DecidableEq, Repr

inductive CapabilitiesFailure
  | short (len : Nat)
  | badStatus (status : UInt8)
  deriving DecidableEq, Repr

def CapabilitiesFailure.text : CapabilitiesFailure → Text
  | .short len => .cons "usbtmc GET_CAPABILITIES reply of ".toList (decimal len)
      (fixed " bytes is too short")
  | .badStatus status => fixedThen "usbtmc GET_CAPABILITIES failed with status " (hexByte status)

/-- A reply that stops at the USBTMC part has no USB488 capabilities. -/
def parseCapabilities (buf : List UInt8) : Except CapabilitiesFailure Capabilities :=
  if buf.length < 6 then .error (.short buf.length)
  else if buf.getD 0 0 ≠ statusSuccess then .error (.badStatus (buf.getD 0 0))
  else if buf.length < 16 then .ok { termChar := buf.getD 5 0 &&& 0x01 != 0 }
  else .ok {
    termChar := buf.getD 5 0 &&& 0x01 != 0
    bcdUsb488 := (buf.getD 12 0).toUInt16 ||| (buf.getD 13 0).toUInt16 <<< 8
    remoteLocal := buf.getD 14 0 &&& 0x02 != 0
    trigger := buf.getD 14 0 &&& 0x01 != 0 }

/-- Status tags stay clear of the service request's notification. -/
def nextStatusTag (tag : UInt8) : UInt8 := if tag ≥ 127 then 2 else max tag 1 + 1

/-- `hasInterruptIn` is the interface's, and `maxPacketSize` its bulk-IN endpoint's. -/
structure UsbtmcBackend where
  caps : Capabilities := {}
  tag : UInt8 := 0
  statusTag : UInt8 := 1
  pendingOut : Option UInt8 := none
  pendingIn : Option UInt8 := none
  myPad : UInt8 := 0
  eosChar : UInt8 := 0x0a
  eosEnabled : Bool := false
  timeoutMs : Nat
  hasInterruptIn : Bool := false
  maxPacketSize : Nat := 512
  deriving DecidableEq, Repr

def maxUrb : Nat := 16 * 1024
def drainRead : Nat := 4096

def padLen (len : Nat) : Nat := (4 - len % 4) % 4

/-- A request is for whole packets. -/
def urbSize (maxPacketSize left : Nat) : Nat :=
  let mps := max maxPacketSize 1
  (min left maxUrb + mps - 1) / mps * mps

/-- One bulk-IN transfer, request by request: it is over with a request that is not filled, or when it
has what was asked for. What a request that is late or fails leaves behind is dropped. -/
def gatherBulkIn {E ε : Type} (maxPacketSize maxLen : Nat) : Nat → List UInt8 → Usb E ε (Answer E)
  | 0, data => pure (.completed data)
  | fuel + 1, data =>
    if maxLen ≤ data.length then pure (.completed data)
    else do
      match ← transfer with
      | .completed got =>
        if got.length < urbSize maxPacketSize (maxLen - data.length) then
          pure (.completed (data ++ got))
        else gatherBulkIn maxPacketSize maxLen fuel (data ++ got)
      | .failed error => pure (.failed error)
      | .late => pure .late

variable {E : Type} (usb : UsbErrors E)

abbrev Op (E α : Type) := Operation UsbtmcBackend Event E α

namespace UsbtmcBackend

/-- A control request's failure, under the request's name. -/
def controlFailed {α : Type} (request : Request) (error : List Char) : Op E α :=
  bail (Text.context request.name (.cons "usbtmc control request ".toList (hexByte request.code)
    (Text.context " failed" (.last error))))

def controlIn (request : Request) : Op E (List UInt8) := do
  match ← Operation.usb id transfer with
  | .completed reply => pure reply
  | .failed error => controlFailed request (usb.display error)
  | .late => controlFailed request usb.cancelled

def checkStatus (request : Request) (reply : List UInt8) : Op E Unit :=
  match reply.head? with
  | some status => bailIf (status ≠ statusSuccess)
      (.cons ("usbtmc " ++ request.name ++ " failed with status ").toList (hexByte status)
        (fixed (" (" ++ statusName status ++ ")")))
  | none => bail (fixed ("usbtmc " ++ request.name ++ ": empty reply"))

def resetBulk (endpoint : Endpoint) : Op E Unit := do
  match ← Operation.usb id untimed with
  | .ok _ => pure ()
  | .error error => bail (Text.context (match endpoint with
      | .bulkIn => "usbtmc clear bulk-in halt"
      | .bulkOut => "usbtmc clear bulk-out halt") (.last (usb.display error)))

/-- A request that is filled is not empty, so there are no more of them than bytes. -/
def bulkIn (maxLen : Nat) : Op E (Answer E) := do
  Operation.usb id (gatherBulkIn (← fields).maxPacketSize maxLen maxLen [])

/-- While the device says PENDING, its FIFO is read out when it asks for that; the loop that has polled
often enough ends like one that was told SUCCESS. -/
def pollAbort (endpoint : Endpoint) (tag : UInt8) : Nat → Op E Unit
  | 0 => send (.stillPending endpoint tag)
  | left + 1 => do
    let status ← controlIn usb (.checkAbortStatus endpoint)
    if status.head? = some statusSuccess then send (.aborted endpoint tag)
    else if status.head? = some statusPending then
      if endpoint = .bulkIn ∧ status.getD 1 0 &&& 0x01 ≠ 0 then
        let _ ← bulkIn drainRead
        pollAbort endpoint tag left
      else pollAbort endpoint tag left
    else checkStatus (.checkAbortStatus endpoint) status

/-- Our own stale transfer first, then what the device still holds. -/
def abortBulkIn (tag : UInt8) : Op E Unit := do
  let reply ← controlIn usb (.initiateAbort .bulkIn)
  if reply.head? = some statusSuccess then
    resetBulk usb .bulkIn
    pollAbort usb .bulkIn tag handshakePolls
    resetBulk usb .bulkIn
  else if reply.head? = some statusTransferNotInProgress then
    send (.aborted .bulkIn tag)
    resetBulk usb .bulkIn
  else checkStatus (.initiateAbort .bulkIn) reply

def abortBulkOut (tag : UInt8) : Op E Unit := do
  let reply ← controlIn usb (.initiateAbort .bulkOut)
  if reply.head? = some statusSuccess then
    pollAbort usb .bulkOut tag handshakePolls
    resetBulk usb .bulkOut
  else if reply.head? = some statusTransferNotInProgress then
    send (.aborted .bulkOut tag)
    resetBulk usb .bulkOut
  else checkStatus (.initiateAbort .bulkOut) reply

def pollClear : Nat → Op E Unit
  | 0 => bail (fixed "usbtmc CHECK_CLEAR_STATUS still PENDING after 50 polls")
  | left + 1 => do
    let status ← controlIn usb .checkClearStatus
    if status.head? = some statusSuccess then send .cleared
    else if status.head? = some statusPending then
      if status.getD 1 0 &&& 0x01 ≠ 0 then
        let _ ← bulkIn drainRead
        pollClear left
      else pollClear left
    else checkStatus .checkClearStatus status

/-- Nothing is half-done any more. -/
def settled (s : UsbtmcBackend) : UsbtmcBackend := { s with pendingIn := none, pendingOut := none }

def clearDevice : Op E Unit := do
  let reply ← controlIn usb .initiateClear
  checkStatus .initiateClear reply
  pollClear usb handshakePolls
  resetBulk usb .bulkIn
  resetBulk usb .bulkOut
  update settled

def onPending (pending : Option UInt8) (abort : UInt8 → Op E Unit) : Op E Unit :=
  match pending with
  | some tag => abort tag
  | none => pure ()

/-- The abort handshakes first; when one fails the device is cleared. -/
def recover (aborted : Except Text Unit) : Op E Unit :=
  match aborted with
  | .ok _ => pure ()
  | .error _ => (clearDevice usb).context "recovering the bulk pipe"

def settle : Op E Unit := do
  let s ← fields
  if s.pendingIn = none ∧ s.pendingOut = none then pure ()
  else
    let aborted ← attempt do
      onPending s.pendingIn (abortBulkIn usb)
      onPending s.pendingOut (abortBulkOut usb)
    recover usb aborted
    update settled

/-- The pipe is put right if it can be; the error is the first one. -/
def fail {α : Type} (err : Text) : Op E α := do
  let _ ← attempt (settle usb)
  bail err

def sendMessage (bulk : Bulk) (tag : UInt8) : Op E Unit := do
  settle usb
  update fun s => { s with pendingOut := some tag }
  send (.message bulk tag)
  match ← Operation.usb id transfer with
  | .completed _ =>
    send (.accepted bulk tag)
    update fun s => { s with pendingOut := none }
  | .failed error => fail usb (Text.context ("usbtmc " ++ bulk.what)
      (Text.context "usbtmc bulk-out failed" (.last (usb.display error))))
  | .late => fail usb (Text.context ("usbtmc " ++ bulk.what)
      (fixedThen "usbtmc bulk-out timed out after " (duration (← fields).timeoutMs)))

def takeTag : Op E UInt8 := do
  update fun s => { s with tag := nextTag s.tag }
  return (← fields).tag

def writeMessage (data : List UInt8) (eom : Bool) : Op E Unit := do
  let tag ← takeTag
  sendMessage usb (.devDepMsgOut data eom) tag

/-- The reply is taken. -/
def take (tag : UInt8) (received : Received) : Op E Received := do
  send (.replied tag received.data)
  update fun s => { s with pendingIn := none }
  pure received

/-- A reply that cannot be parsed is discarded for the one that may be queued behind it. -/
def resyncRead (cap : Nat) (tag : UInt8) : Nat → ParseFailure → Op E Received
  | 0, failure => fail usb failure.text
  | left + 1, failure => do
    match ← bulkIn cap with
    | .completed buf => match parseDevDepMsgIn buf tag with
      | .ok received => take tag received
      | .error failure => resyncRead cap tag left failure
    | _ => fail usb failure.text

/-- The most a reply to a request for so many bytes takes. -/
def replyCap (want : Nat) : Nat := headerLen + want + padLen want

def readOneTransfer (maxLen : Nat) : Op E Received := do
  let s ← fields
  let tag ← takeTag
  sendMessage usb (.requestDevDepMsgIn (clampLen maxLen)
    (if s.eosEnabled && s.caps.termChar then some s.eosChar else none)) tag
  update fun s => { s with pendingIn := some tag }
  match ← bulkIn (replyCap (clampLen maxLen)) with
  | .completed buf => match parseDevDepMsgIn buf tag with
    | .ok received => take tag received
    | .error failure => resyncRead usb (replyCap (clampLen maxLen)) tag readResyncAttempts failure
  | .failed error => fail usb (Text.context "usbtmc read"
      (Text.context "usbtmc bulk-in failed" (.last (usb.display error))))
  | .late => fail usb (Text.context "usbtmc read"
      (fixedThen "usbtmc bulk-in timed out after " (duration s.timeoutMs)))

/-- Transfers until the device marks the end or the caller has enough. -/
def readTransfers (want : Nat) : Nat → List UInt8 → Op E Received
  | 0, out => pure { data := out, ended := false }
  | fuel + 1, out => do
    let received ← readOneTransfer usb (want - out.length)
    if received.ended || want ≤ (out ++ received.data).length || received.data.isEmpty then
      pure { data := out ++ received.data, ended := received.ended }
    else readTransfers want fuel (out ++ received.data)

def readMessage (maxLen : Nat) : Op E Received :=
  readTransfers usb (clampLen maxLen) (clampLen maxLen) []

def requireUsb488 (what : String) : Op E Unit := do
  bailIf ((← fields).caps.bcdUsb488 = 0)
    (fixed (what ++ ": this is a plain USBTMC interface, not USB488"))

def requireRemoteLocal (what : String) : Op E Unit := do
  requireUsb488 what
  bailIf ((← fields).caps.remoteLocal = false) (fixed (what ++
    ": the device does not advertise REN_CONTROL / GO_TO_LOCAL / LOCAL_LOCKOUT"))

/-- A request that only has its status looked at. -/
def remoteLocal (what : String) (request : Request) : Op E Unit := do
  requireRemoteLocal what
  let reply ← controlIn usb request
  checkStatus request reply

def ren : Op E Unit := remoteLocal usb "REN" .renControl

def goToLocal : Op E Unit := remoteLocal usb "GTL" .goToLocal

def localLockout : Op E Unit := remoteLocal usb "LLO" .localLockout

/-- What a dead predecessor left queued is read out, quietly. -/
def drainStale : Nat → Op E Unit
  | 0 => pure ()
  | left + 1 => do
    match ← bulkIn drainRead with
    | .completed (_ :: _) => drainStale left
    | _ => pure ()

def init (myPad : UInt8) : Op E Unit := do
  update fun s => { s with myPad }
  let reply ← controlIn usb .getCapabilities
  let caps ← ofExcept (·.text) (parseCapabilities reply)
  update fun s => { s with caps }
  (clearDevice usb).context "initial device clear"
  drainStale readResyncAttempts
  if caps.remoteLocal then
    let _ ← attempt (ren usb)

def trigger : Op E Unit := do
  requireUsb488 "trigger"
  bailIf ((← fields).caps.trigger = false)
    (fixed "trigger: the device does not accept the USB488 TRIGGER message")
  let tag ← takeTag
  sendMessage usb .trigger tag

/-- The byte comes on the interrupt endpoint where there is one; `notified` is what it reports for the
tag before the wait is over. -/
def statusByte (reply : List UInt8) (notified : Option UInt8) : Op E UInt8 := do
  if (← fields).hasInterruptIn then
    match notified with
    | some stb => pure stb
    | none => bail (Text.context "READ_STATUS_BYTE via the interrupt endpoint"
        (elapsed.context "timed out waiting for the status byte on the interrupt endpoint"))
  else match reply.drop 2 with
    | stb :: _ => pure stb
    | [] => bail (fixed "READ_STATUS_BYTE reply is missing the status byte")

def otherTag (tag : UInt8) : Option UInt8 → Text
  | none => fixedThen "READ_STATUS_BYTE reply carries bTag None, expected " (decimal tag.toNat)
  | some other => .cons "READ_STATUS_BYTE reply carries bTag Some(".toList (decimal other.toNat)
      (fixedThen "), expected " (decimal tag.toNat))

/-- `latched` is the byte a service request has delivered and no poll has taken. -/
def serialPoll (latched notified : Option UInt8) : Op E UInt8 := do
  requireUsb488 "serial poll"
  match latched with
  | some stb => pure stb
  | none =>
    update fun s => { s with statusTag := nextStatusTag s.statusTag }
    let tag := (← fields).statusTag
    let reply ← controlIn usb .readStatusByte
    checkStatus .readStatusByte reply
    bailIf (reply[1]? ≠ some tag) (otherTag tag reply[1]?)
    statusByte reply notified

end UsbtmcBackend

/-- The calls the front ends make. Addresses are accepted and ignored. -/
inductive Call
  | init (myPad : UInt8)
  | write (data : List UInt8) (sendEoi : Bool)
  | read (maxLen : Nat)
  | deviceClear
  | trigger
  | ifc
  | ren
  | goToLocal
  | localLockout
  | serialPoll (latched notified : Option UInt8)
  | setControllerPad (pad : UInt8)
  | setEos (eosChar : UInt8) (enabled : Bool)
  | setTimeout (timeoutMs : Nat)
  deriving DecidableEq, Repr

/-- The call without what it returns. -/
def Call.op : Call → Op E Unit
  | .init myPad => UsbtmcBackend.init usb myPad
  | .write data sendEoi => UsbtmcBackend.writeMessage usb data sendEoi
  | .read maxLen => do let _ ← UsbtmcBackend.readMessage usb maxLen
  | .deviceClear => UsbtmcBackend.clearDevice usb
  | .trigger => UsbtmcBackend.trigger usb
  | .ifc => UsbtmcBackend.settle usb
  | .ren => UsbtmcBackend.ren usb
  | .goToLocal => UsbtmcBackend.goToLocal usb
  | .localLockout => UsbtmcBackend.localLockout usb
  | .serialPoll latched notified => do let _ ← UsbtmcBackend.serialPoll usb latched notified
  | .setControllerPad pad => update fun s => { s with myPad := pad }
  | .setEos eosChar enabled => update fun s => { s with eosChar, eosEnabled := enabled }
  | .setTimeout timeoutMs => update fun s => { s with timeoutMs }

/-- A backend that is given these answers. -/
def answered (answers : List (Answer E)) : Port UsbtmcBackend Event E :=
  { ctrl := { timeoutMs := 3000 }, answers }

end Ugpibd.Backend.Usbtmc
