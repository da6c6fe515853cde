import Ugpibd.Backend.ErrorText

/-! Writes and reads on a USBTMC interface, with everything that can fail in them. A message that was
left half-done is put right before the next; putting it right after a failure cannot fail the
operation again and is left out. -/
namespace Ugpibd.Backend.Usbtmc

def headerLen : Nat := 12
def msgidDevDepMsgIn : UInt8 := 2
def statusSuccess : UInt8 := 0x01
def statusPending : UInt8 := 0x02
def statusTransferNotInProgress : UInt8 := 0x81
def handshakePolls : Nat := 50
def readResyncAttempts : Nat := 3
def maxReadTransfer : Nat := 1 <<< 20

variable {E : Type}

def statusName (status : UInt8) : String :=
  match status with
  | 0x01 => "SUCCESS"
  | 0x02 => "PENDING"
  | 0x80 => "FAILED"
  | 0x81 => "TRANSFER_NOT_IN_PROGRESS"
  | 0x82 => "SPLIT_NOT_IN_PROGRESS"
  | 0x83 => "SPLIT_IN_PROGRESS"
  | _ => "unknown"

/-- Two ends of a wait of which one may say that it ran out or that it did not: a clear that is still
pending after its last poll, and nothing behind a reply that could not be parsed. -/
structure Reading where
  pendingClear : Bool
  unparsedReply : Bool
  deriving DecidableEq, Repr

/-- The two requests of a device clear. -/
inductive ClearRequest
  | initiateClear
  | checkClearStatus
  deriving DecidableEq, Repr

def ClearRequest.name : ClearRequest → String
  | .initiateClear => "INITIATE_CLEAR"
  | .checkClearStatus => "CHECK_CLEAR_STATUS"

def ClearRequest.code : ClearRequest → UInt8
  | .initiateClear => 5
  | .checkClearStatus => 6

inductive ClearFailure (E : Type)
  | controlFailed (request : ClearRequest) (error : E)
  | controlLate (request : ClearRequest)
  | badStatus (request : ClearRequest) (status : UInt8)
  | emptyReply (request : ClearRequest)
  | stillPending
  | clearBulkInHalt (error : E)
  | clearBulkOutHalt (error : E)
  deriving DecidableEq

namespace ClearFailure

/-- A control request's failure, under the request's name. -/
def controlText (request : ClearRequest) (error : List Char) : Text :=
  Text.context request.name (.cons "usbtmc control request ".toList (hexByte request.code)
    (Text.context " failed" (.last error)))

def text (usb : UsbErrors E) : ClearFailure E → Text
  | .controlFailed request error => controlText request (usb.display error)
  | .controlLate request => controlText request usb.cancelled
  | .badStatus request status => .cons ("usbtmc " ++ request.name ++ " failed with status ").toList
      (hexByte status) (fixed (" (" ++ statusName status ++ ")"))
  | .emptyReply request => fixed ("usbtmc " ++ request.name ++ ": empty reply")
  | .stillPending => fixed "usbtmc CHECK_CLEAR_STATUS still PENDING after 50 polls"
  | .clearBulkInHalt error => Text.context "usbtmc clear bulk-in halt" (.last (usb.display error))
  | .clearBulkOutHalt error => Text.context "usbtmc clear bulk-out halt" (.last (usb.display error))

def ranOut (reading : Reading) : ClearFailure E → Bool
  | .controlLate _ => true
  | .stillPending => reading.pendingClear
  | _ => false

end ClearFailure

def controlIn (request : ClearRequest) : Usb E (ClearFailure E) (List UInt8) := do
  match ← transfer with
  | .completed reply => pure reply
  | .failed error => throw (.controlFailed request error)
  | .late => throw (.controlLate request)

def checkStatus (request : ClearRequest) (reply : List UInt8) : Usb E (ClearFailure E) Unit :=
  match reply.head? with
  | some status => if status = statusSuccess then pure () else throw (.badStatus request status)
  | none => throw (.emptyReply request)

def resetBulk (failure : E → ClearFailure E) : Usb E (ClearFailure E) Unit := do
  match ← untimed with
  | .ok _ => pure ()
  | .error error => throw (failure error)

/-- The device is asked until it is done; what is left in its FIFO is read out when it says so. -/
def pollClear : Nat → Usb E (ClearFailure E) Unit
  | 0 => throw .stillPending
  | left + 1 => do
    let status ← controlIn .checkClearStatus
    if status.head? = some statusPending then
      if status.getD 1 0 &&& 0x01 ≠ 0 then
        let _ ← transfer
      pollClear left
    else checkStatus .checkClearStatus status

def clearDevice : Usb E (ClearFailure E) Unit := do
  checkStatus .initiateClear (← controlIn .initiateClear)
  pollClear handshakePolls
  resetBulk .clearBulkInHalt
  resetBulk .clearBulkOutHalt

/-- How the spec's abort of one endpoint went; only whether it worked is looked at. -/
def abortSucceeds (drains : Bool) : Usb E Empty Bool := do
  match ← transfer with
  | .completed reply =>
    if reply.head? = some statusSuccess then
      if drains then
        if (← untimed).isOk then polls drains handshakePolls else pure false
      else polls drains handshakePolls
    else if reply.head? = some statusTransferNotInProgress then return (← untimed).isOk
    else pure false
  | _ => pure false
where
  /-- An abort that stays pending is taken for done. -/
  polls (drains : Bool) : Nat → Usb E Empty Bool
  | 0 => return (← untimed).isOk
  | left + 1 => do
    match ← transfer with
    | .completed status =>
      if status.head? = some statusSuccess then return (← untimed).isOk
      else if status.head? = some statusPending then
        if drains && status.getD 1 0 &&& 0x01 != 0 then
          let _ ← transfer
        polls drains left
      else pure false
    | _ => pure false

/-- What an earlier call left half-done. -/
structure Pending where
  bulkIn : Bool := false
  bulkOut : Bool := false
  deriving DecidableEq, Repr

def settle (pending : Pending) : Usb E (ClearFailure E) Unit := do
  if pending.bulkIn || pending.bulkOut then
    let mut worked := true
    if pending.bulkIn then
      worked ← (abortSucceeds true).adapt nofun
    if pending.bulkOut && worked then
      worked ← (abortSucceeds false).adapt nofun
    if !worked then
      clearDevice

inductive Message
  | write
  | readRequest
  deriving DecidableEq, Repr

def Message.what : Message → String
  | .write => "write"
  | .readRequest => "read request"

inductive SendFailure (E : Type)
  | settle (failure : ClearFailure E)
  | bulkOutTimedOut (message : Message) (timeoutMs : Nat)
  | bulkOutFailed (message : Message) (error : E)
  deriving DecidableEq

def SendFailure.text (usb : UsbErrors E) : SendFailure E → Text
  | .settle failure => (failure.text usb).context "recovering the bulk pipe"
  | .bulkOutTimedOut message timeoutMs => Text.context ("usbtmc " ++ message.what)
      (fixedThen "usbtmc bulk-out timed out after " (duration timeoutMs))
  | .bulkOutFailed message error => Text.context ("usbtmc " ++ message.what)
      (Text.context "usbtmc bulk-out failed" (.last (usb.display error)))

def SendFailure.ranOut (reading : Reading) : SendFailure E → Bool
  | .settle failure => failure.ranOut reading
  | .bulkOutTimedOut .. => true
  | .bulkOutFailed .. => false

structure Controller where
  pending : Pending := {}
  tag : UInt8 := 0
  timeoutMs : Nat := 3000
  deriving DecidableEq, Repr

def nextTag (tag : UInt8) : UInt8 := if tag = 255 then 1 else tag + 1

def sendMessage (s : Controller) (message : Message) : Usb E (SendFailure E) Unit := do
  (settle s.pending).adapt .settle
  match ← transfer with
  | .completed _ => pure ()
  | .failed error => throw (.bulkOutFailed message error)
  | .late => throw (.bulkOutTimedOut message s.timeoutMs)

inductive ParseFailure
  | short (len : Nat)
  | msgId (id : UInt8)
  | answersTag (got tag : UInt8)
  | tagInverse (got tag : UInt8)
  deriving DecidableEq, Repr

def ParseFailure.text : ParseFailure → Text
  | .short len => .cons "usbtmc bulk-in transfer of ".toList (decimal len)
      (fixed " bytes is shorter than the 12-byte header")
  | .msgId id => .cons "usbtmc bulk-in MsgID ".toList (hexByte id)
      (.cons ", expected DEV_DEP_MSG_IN (".toList (hexByte msgidDevDepMsgIn) (fixed ")"))
  | .answersTag got tag => .cons "usbtmc bulk-in answers bTag ".toList (decimal got.toNat)
      (.cons " but request was ".toList (decimal tag.toNat) (fixed ": the pipe is out of step"))
  | .tagInverse got tag => .cons "usbtmc bulk-in bTagInverse ".toList (hexByte got)
      (fixedThen " does not match bTag " (decimal tag.toNat))

def parseDevDepMsgIn (buf : List UInt8) (tag : UInt8) : Except ParseFailure Received :=
  if buf.length < headerLen then .error (.short buf.length)
  else if buf.getD 0 0 ≠ msgidDevDepMsgIn then .error (.msgId (buf.getD 0 0))
  else if buf.getD 1 0 ≠ tag then .error (.answersTag (buf.getD 1 0) tag)
  else if buf.getD 2 0 ≠ ~~~tag then .error (.tagInverse (buf.getD 2 0) tag)
  else
    let transferSize := (buf.getD 4 0).toNat + (buf.getD 5 0).toNat * 2 ^ 8 +
      (buf.getD 6 0).toNat * 2 ^ 16 + (buf.getD 7 0).toNat * 2 ^ 24
    .ok {
      data := (buf.drop headerLen).take transferSize
      -- the message is over, or its terminator was seen
      ended := buf.getD 8 0 &&& 0x03 != 0 }

/-- `unanswered` says that no other reply came in time after the one that could not be parsed. -/
inductive ReadFailure (E : Type)
  | send (failure : SendFailure E)
  | bulkInTimedOut (timeoutMs : Nat)
  | bulkInFailed (error : E)
  | parse (failure : ParseFailure) (unanswered : Bool)
  deriving DecidableEq

def ReadFailure.text (usb : UsbErrors E) : ReadFailure E → Text
  | .send failure => failure.text usb
  | .bulkInTimedOut timeoutMs => Text.context "usbtmc read"
      (fixedThen "usbtmc bulk-in timed out after " (duration timeoutMs))
  | .bulkInFailed error => Text.context "usbtmc read"
      (Text.context "usbtmc bulk-in failed" (.last (usb.display error)))
  | .parse failure _ => failure.text

def ReadFailure.ranOut (reading : Reading) : ReadFailure E → Bool
  | .send failure => failure.ranOut reading
  | .bulkInTimedOut _ => true
  | .bulkInFailed _ => false
  | .parse _ unanswered => reading.unparsedReply && unanswered

/-- A reply that cannot be parsed is discarded for the one that may be queued behind it. -/
def resync (tag : UInt8) : Nat → ParseFailure → Usb E (ReadFailure E) Received
  | 0, failure => throw (.parse failure false)
  | left + 1, failure => do
    match ← transfer with
    | .completed buf => match parseDevDepMsgIn buf tag with
      | .ok received => pure received
      | .error failure => resync tag left failure
    | .failed _ => throw (.parse failure false)
    | .late => throw (.parse failure true)

def readOneTransfer (s : Controller) (tag : UInt8) : Usb E (ReadFailure E) Received := do
  (sendMessage s .readRequest).adapt .send
  match ← transfer with
  | .completed buf => match parseDevDepMsgIn buf tag with
    | .ok received => pure received
    | .error failure => resync tag readResyncAttempts failure
  | .failed error => throw (.bulkInFailed error)
  | .late => throw (.bulkInTimedOut s.timeoutMs)

/-- Transfers until the device marks the end or the caller has enough. -/
def readTransfers (want : Nat) : Nat → Controller → List UInt8 → Usb E (ReadFailure E) Received
  | 0, _, out => pure { data := out, ended := false }
  | fuel + 1, s, out => do
    let tag := nextTag s.tag
    let received ← readOneTransfer s tag
    let out := out ++ received.data
    if received.ended || want ≤ out.length || received.data.isEmpty then
      pure { data := out, ended := received.ended }
    else readTransfers want fuel { s with tag, pending := {} } out

def clampLen (maxLen : Nat) : Nat := min (max maxLen 1) maxReadTransfer

namespace Controller

/-- Addressed or not, the data path is the same. -/
def write (s : Controller) : Usb E (SendFailure E) Unit := sendMessage s .write

def read (s : Controller) (maxLen : Nat) : Usb E (ReadFailure E) Received :=
  readTransfers (clampLen maxLen) (clampLen maxLen) s []

end Controller
end Ugpibd.Backend.Usbtmc
