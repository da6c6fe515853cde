import Ugpibd.Hislip.ChannelLoop
import Ugpibd.Hislip.Execution
import Ugpibd.Library.History
import Ugpibd.Library.Runs

/-! The loop of a session's synchronous channel, await by await, with what the asynchronous channel
and the service-request forwarder do to the entry they share with it. -/
namespace Ugpibd.Hislip
open Library

/-- The operating modes on offer, and which one a session starts in. -/
inductive Modes
  | synchronized
  | preferSynchronized
  | preferOverlapped
  deriving DecidableEq, Repr

def Modes.supportsOverlapped (modes : Modes) : Bool := modes != .synchronized
def Modes.prefersOverlapped (modes : Modes) : Bool := modes == .preferOverlapped

structure SessionConfig where
  protocol : UInt16
  maxMessageSize : UInt64
  modes : Modes := .synchronized
  deriving DecidableEq, Repr

/-- A type's name as the server writes it in an error. -/
def MessageType.name : MessageType → String
  | .initializeRequest => "Initialize"
  | .initializeResponse => "InitializeResponse"
  | .fatalError => "FatalError"
  | .error => "Error"
  | .asyncLock => "AsyncLock"
  | .asyncLockResponse => "AsyncLockResponse"
  | .data => "Data"
  | .dataEnd => "DataEnd"
  | .deviceClearComplete => "DeviceClearComplete"
  | .deviceClearAcknowledge => "DeviceClearAcknowledge"
  | .asyncRemoteLocalControl => "AsyncRemoteLocalControl"
  | .asyncRemoteLocalResponse => "AsyncRemoteLocalResponse"
  | .trigger => "Trigger"
  | .interrupted => "Interrupted"
  | .asyncInterrupted => "AsyncInterrupted"
  | .asyncMaximumMessageSize => "AsyncMaximumMessageSize"
  | .asyncMaximumMessageSizeResponse => "AsyncMaximumMessageSizeResponse"
  | .asyncInitialize => "AsyncInitialize"
  | .asyncInitializeResponse => "AsyncInitializeResponse"
  | .asyncDeviceClear => "AsyncDeviceClear"
  | .asyncServiceRequest => "AsyncServiceRequest"
  | .asyncStatusQuery => "AsyncStatusQuery"
  | .asyncStatusResponse => "AsyncStatusResponse"
  | .asyncDeviceClearAcknowledge => "AsyncDeviceClearAcknowledge"
  | .asyncLockInfo => "AsyncLockInfo"
  | .asyncLockInfoResponse => "AsyncLockInfoResponse"
  | .getDescriptors => "GetDescriptors"
  | .getDescriptorsResponse => "GetDescriptorsResponse"
  | .startTLS => "StartTLS"
  | .asyncStartTLS => "AsyncStartTLS"
  | .asyncStartTLSResponse => "AsyncStartTLSResponse"
  | .endTLS => "EndTLS"
  | .asyncEndTLS => "AsyncEndTLS"
  | .asyncEndTLSResponse => "AsyncEndTLSResponse"
  | .getSaslMechanismList => "GetSaslMechanismList"
  | .getSaslMechanismListResponse => "GetSaslMechanismListResponse"
  | .authenticationStart => "AuthenticationStart"
  | .authenticationExchange => "AuthenticationExchange"
  | .authenticationResult => "AuthenticationResult"
  | .vendorSpecific code => "VendorSpecific(" ++ toString code.toNat ++ ")"

/-- What the loop is waiting for. A command waits for its lock and the bus and is executed; its
reply waits for the writer and goes out message by message. Errors and the acknowledgement of a
clear are one message, after which the loop may be over. -/
inductive SyncTask
  | reading
  | executing (requestId : UInt32) (cmd : List UInt8)
  | answering (requestId : UInt32) (data : List UInt8) (serviceRequest : Option UInt8)
  | sending (requestId : UInt32) (rest : List (MessageType × List UInt8))
      (serviceRequest : Option UInt8)
  | triggering
  | writing (message : Message) (ends : Bool)
  | ended
  deriving DecidableEq, Repr

/-- What happens in a session: a Data, DataEND or Trigger message is noted, a reply is begun, one of
its messages is sent, another message is written on the synchronous channel, a device clear is
completed, a poll of the daemon's own takes a service request, its byte is put by for a status
query, and a status query is answered. -/
inductive SessionEvent
  | noted (msg : Message)
  | begun
  | sent (message : Message)
  | wrote (message : Message)
  | cleared (overlapped : Bool)
  | polled (stb : UInt8)
  | putBy (stb : UInt8)
  | answered (live : Except String UInt8) (messageId : UInt32) (stb : UInt8)

/-- A session's synchronous channel. The history, newest event first, is not part of the program. -/
structure SyncChannel where
  entry : SessionEntry
  clearEpoch : UInt64 := 0
  epoch : UInt64 := 0
  buffer : List UInt8 := []
  task : SyncTask := .reading
  history : List SessionEvent := []

/-- The channel reads a message, or finds something wrong with it, or its connection is gone; the
task it is in goes on or a write of it fails. The others are the forwarder's poll and the requests
on the asynchronous channel that touch the entry. -/
inductive SyncAction
  | receive (msg : Message)
  | readError (e : Error)
  | disconnected
  | executed (bus : BusAnswers)
  | beginReply
  | sendNext
  | replied
  | triggered
  | written
  | writeFailed
  | forwarderPolled (stb : UInt8)
  | statusQuery (live : Except String UInt8) (messageId : UInt32)
  | maximumMessageSize (size : UInt64)
  | asyncDeviceClear

/-- The status byte of a status query's response: the live one, or the one put by if the instrument
has nothing to report, with MAV as the server sees it. -/
def SessionEntry.statusByte (entry : SessionEntry) (live : Except String UInt8)
    (messageId : UInt32) : UInt8 :=
  let stb := live.toOption.getD 0
  let stb := if stb = 0 then entry.consumedStb.getD stb else stb
  (stb &&& ~~~stbMav) ||| entry.mavBit messageId

namespace SyncChannel

/-- A session as `Initialize` makes it. -/
def start (config : SessionConfig) : SyncChannel where
  entry := {
    clientMaxMessageSize := config.maxMessageSize
    overlapped := config.modes.prefersOverlapped }

/-- A device clear since the last message voids a half-assembled one. -/
def noticeClear (s : SyncChannel) : SyncChannel :=
  if s.clearEpoch ≠ s.epoch then { s with epoch := s.clearEpoch, buffer := [] } else s

def note (s : SyncChannel) (msg : Message) : SyncChannel :=
  { s with entry := s.entry.noteClientMessage msg, history := .noted msg :: s.history }

/-- The client has acknowledged a clear: take the mode it asks for if the server has it. -/
def completeClear (config : SessionConfig) (s : SyncChannel) (msg : Message) : SyncChannel :=
  let overlapped := firstBit msg.controlCode && config.modes.supportsOverlapped
  { s with
    entry := s.entry.setOverlapped overlapped
    task := .writing ⟨.deviceClearAcknowledge, if overlapped then 1 else 0, 0, []⟩ false
    history := .cleared overlapped :: s.history }

/-- What the loop does with a message it has read. -/
def receive (config : SessionConfig) (s : SyncChannel) (msg : Message) : SyncChannel :=
  match msg.messageType with
  | .data => { s.note msg with buffer := s.buffer ++ msg.payload }
  | .dataEnd => { s.note msg with
      buffer := []
      task := .executing msg.messageParameter (s.buffer ++ msg.payload) }
  | .trigger => { s.note msg with task := .triggering }
  | .deviceClearComplete => s.completeClear config msg
  | .fatalError => { s with task := .ended }
  | .error => s
  | other =>
    if Channel.sync.continues config.protocol msg then
      { s with task := .writing (.ofError (.nonFatal .unrecognizedMessageType
          ("unexpected sync message: " ++ other.name))) false }
    else { s with task := .writing (.ofError (.fatal .secureConnectionFailed
          "TLS/SASL not supported")) true }

/-- The byte is put by for the next status query. -/
def raiseServiceRequest (s : SyncChannel) : Option UInt8 → SyncChannel
  | some stb => { s with
      entry := { s.entry with consumedStb := some stb }
      history := .putBy stb :: s.history }
  | none => s

def notePolled (s : SyncChannel) : Option UInt8 → SyncChannel
  | some stb => { s with history := .polled stb :: s.history }
  | none => s

/-- What the loop does with what an execution returns. -/
def executed (s : SyncChannel) (requestId : UInt32) : Except String Execution → SyncChannel
  | .error e => { s with task := .writing (.ofError (.nonFatal .unidentifiedError
      ("device error: " ++ e))) false }
  | .ok ⟨none, serviceRequest⟩ => { s with task := .reading }.raiseServiceRequest serviceRequest
  | .ok ⟨some data, serviceRequest⟩ => { s with
      entry := { s.entry with mav := true }
      task := .answering requestId data serviceRequest
      history := .begun :: s.history }

def statusQuery (s : SyncChannel) (live : Except String UInt8) (messageId : UInt32) : SyncChannel :=
  { s with
    entry := { s.entry with consumedStb := none }
    history := .answered live messageId (s.entry.statusByte live messageId) :: s.history }

def step (config : SessionConfig) (s : SyncChannel) : SyncAction → Option SyncChannel
  | .receive msg => match s.task with
    | .reading => some (s.noticeClear.receive config msg)
    | _ => none
  | .readError e => match s.task with
    | .reading => some { s with task := .writing (.ofError e) e.isFatal }
    | _ => none
  | .disconnected => match s.task with
    | .reading => some { s with task := .ended }
    | _ => none
  | .executed bus => match s.task with
    | .executing requestId cmd =>
      some ((s.notePolled (polledByExecute (queryHint cmd) bus)).executed requestId
        (execute (queryHint cmd) bus))
    | _ => none
  | .beginReply => match s.task with
    | .answering requestId data serviceRequest => some { s with
        task := .sending requestId (replyPieces s.entry.clientMaxMessageSize data) serviceRequest }
    | _ => none
  | .sendNext => match s.task with
    | .sending requestId (piece :: rest) serviceRequest => some { s with
        entry := (s.entry.writePiece requestId piece).2
        task := .sending requestId rest serviceRequest
        history := .sent (s.entry.writePiece requestId piece).1 :: s.history }
    | _ => none
  | .replied => match s.task with
    | .sending _ [] serviceRequest =>
      some ({ s with task := .reading }.raiseServiceRequest serviceRequest)
    | _ => none
  | .triggered => match s.task with
    | .triggering => some { s with task := .reading }
    | _ => none
  | .written => match s.task with
    | .writing message ends => some { s with
        task := if ends then .ended else .reading
        history := .wrote message :: s.history }
    | _ => none
  | .writeFailed => match s.task with
    | .answering .. | .sending .. | .writing .. => some { s with task := .ended }
    | _ => none
  | .forwarderPolled stb =>
    if stb &&& stbRqs ≠ 0 then some ((s.notePolled (some stb)).raiseServiceRequest (some stb))
    else none
  | .statusQuery live messageId => some (s.statusQuery live messageId)
  | .maximumMessageSize size =>
    some { s with entry := { s.entry with clientMaxMessageSize := size } }
  | .asyncDeviceClear => some { s with clearEpoch := s.clearEpoch + 1 }

/-- The task each action finds, and what it makes of the session. -/
inductive Effect (config : SessionConfig) (s : SyncChannel) : SyncAction → SyncChannel → Prop
  | receive (msg : Message) : s.task = .reading →
      Effect config s (.receive msg) (s.noticeClear.receive config msg)
  | readError (e : Error) : s.task = .reading →
      Effect config s (.readError e) { s with task := .writing (.ofError e) e.isFatal }
  | disconnected : s.task = .reading → Effect config s .disconnected { s with task := .ended }
  | executed (bus : BusAnswers) (requestId : UInt32) (cmd : List UInt8) :
      s.task = .executing requestId cmd →
      Effect config s (.executed bus)
        ((s.notePolled (polledByExecute (queryHint cmd) bus)).executed requestId
          (execute (queryHint cmd) bus))
  | beginReply (requestId : UInt32) (data : List UInt8) (serviceRequest : Option UInt8) :
      s.task = .answering requestId data serviceRequest →
      Effect config s .beginReply { s with
        task := .sending requestId (replyPieces s.entry.clientMaxMessageSize data) serviceRequest }
  | sendNext (requestId : UInt32) (piece : MessageType × List UInt8)
      (rest : List (MessageType × List UInt8)) (serviceRequest : Option UInt8) :
      s.task = .sending requestId (piece :: rest) serviceRequest →
      Effect config s .sendNext { s with
        entry := (s.entry.writePiece requestId piece).2
        task := .sending requestId rest serviceRequest
        history := .sent (s.entry.writePiece requestId piece).1 :: s.history }
  | replied (requestId : UInt32) (serviceRequest : Option UInt8) :
      s.task = .sending requestId [] serviceRequest →
      Effect config s .replied ({ s with task := .reading }.raiseServiceRequest serviceRequest)
  | triggered : s.task = .triggering → Effect config s .triggered { s with task := .reading }
  | written (message : Message) (ends : Bool) : s.task = .writing message ends →
      Effect config s .written { s with
        task := if ends then .ended else .reading
        history := .wrote message :: s.history }
  | writeFailed : Effect config s .writeFailed { s with task := .ended }
  | forwarderPolled (stb : UInt8) : stb &&& stbRqs ≠ 0 →
      Effect config s (.forwarderPolled stb)
        ((s.notePolled (some stb)).raiseServiceRequest (some stb))
  | statusQuery (live : Except String UInt8) (messageId : UInt32) :
      Effect config s (.statusQuery live messageId) (s.statusQuery live messageId)
  | maximumMessageSize (size : UInt64) :
      Effect config s (.maximumMessageSize size)
        { s with entry := { s.entry with clientMaxMessageSize := size } }
  | asyncDeviceClear :
      Effect config s .asyncDeviceClear { s with clearEpoch := s.clearEpoch + 1 }

theorem step_effect {config : SessionConfig} {s s' : SyncChannel} {a : SyncAction}
    (hs : step config s a = some s') : Effect config s a s' := by
  cases a <;> simp only [step] at hs
  case receive msg => split at hs <;> cases hs; exact .receive msg ‹_›
  case readError e => split at hs <;> cases hs; exact .readError e ‹_›
  case disconnected => split at hs <;> cases hs; exact .disconnected ‹_›
  case executed bus => split at hs <;> cases hs; exact .executed bus _ _ ‹_›
  case beginReply => split at hs <;> cases hs; exact .beginReply _ _ _ ‹_›
  case sendNext => split at hs <;> cases hs; exact .sendNext _ _ _ _ ‹_›
  case replied => split at hs <;> cases hs; exact .replied _ _ ‹_›
  case triggered => split at hs <;> cases hs; exact .triggered ‹_›
  case written => split at hs <;> cases hs; exact .written _ _ ‹_›
  case writeFailed => split at hs <;> cases hs <;> exact .writeFailed
  case forwarderPolled stb => split at hs <;> cases hs; exact .forwarderPolled stb ‹_›
  case statusQuery live messageId => cases hs; exact .statusQuery live messageId
  case maximumMessageSize size => cases hs; exact .maximumMessageSize size
  case asyncDeviceClear => cases hs; exact .asyncDeviceClear

/-- A message is taken in the same task, whether or not a clear was noticed. -/
theorem noticeClear_task (s : SyncChannel) : s.noticeClear.task = s.task := by
  unfold noticeClear
  split_ifs <;> rfl

end SyncChannel
end Ugpibd.Hislip
