import Ugpibd.Library.BigEndian
import Ugpibd.Vxi11.Records

/-! HiSLIP messages on the wire: a header of sixteen bytes that says how long the payload after it
is. A message over the limit is refused from its header alone. -/
namespace Ugpibd.Hislip
open Library Vxi11

/-- Message types of the protocol. Vendor-specific codes are 128 to 255. -/
inductive MessageType
  | initializeRequest
  | initializeResponse
  | fatalError
  | error
  | asyncLock
  | asyncLockResponse
  | data
  | dataEnd
  | deviceClearComplete
  | deviceClearAcknowledge
  | asyncRemoteLocalControl
  | asyncRemoteLocalResponse
  | trigger
  | interrupted
  | asyncInterrupted
  | asyncMaximumMessageSize
  | asyncMaximumMessageSizeResponse
  | asyncInitialize
  | asyncInitializeResponse
  | asyncDeviceClear
  | asyncServiceRequest
  | asyncStatusQuery
  | asyncStatusResponse
  | asyncDeviceClearAcknowledge
  | asyncLockInfo
  | asyncLockInfoResponse
  | getDescriptors
  | getDescriptorsResponse
  | startTLS
  | asyncStartTLS
  | asyncStartTLSResponse
  | endTLS
  | asyncEndTLS
  | asyncEndTLSResponse
  | getSaslMechanismList
  | getSaslMechanismListResponse
  | authenticationStart
  | authenticationExchange
  | authenticationResult
  | vendorSpecific (code : UInt8)
  deriving DecidableEq, Repr

def MessageType.getMessageType : MessageType → UInt8
  | .initializeRequest => 0
  | .initializeResponse => 1
  | .fatalError => 2
  | .error => 3
  | .asyncLock => 4
  | .asyncLockResponse => 5
  | .data => 6
  | .dataEnd => 7
  | .deviceClearComplete => 8
  | .deviceClearAcknowledge => 9
  | .asyncRemoteLocalControl => 10
  | .asyncRemoteLocalResponse => 11
  | .trigger => 12
  | .interrupted => 13
  | .asyncInterrupted => 14
  | .asyncMaximumMessageSize => 15
  | .asyncMaximumMessageSizeResponse => 16
  | .asyncInitialize => 17
  | .asyncInitializeResponse => 18
  | .asyncDeviceClear => 19
  | .asyncServiceRequest => 20
  | .asyncStatusQuery => 21
  | .asyncStatusResponse => 22
  | .asyncDeviceClearAcknowledge => 23
  | .asyncLockInfo => 24
  | .asyncLockInfoResponse => 25
  | .getDescriptors => 26
  | .getDescriptorsResponse => 27
  | .startTLS => 28
  | .asyncStartTLS => 29
  | .asyncStartTLSResponse => 30
  | .endTLS => 31
  | .asyncEndTLS => 32
  | .asyncEndTLSResponse => 33
  | .getSaslMechanismList => 34
  | .getSaslMechanismListResponse => 35
  | .authenticationStart => 36
  | .authenticationExchange => 37
  | .authenticationResult => 38
  | .vendorSpecific code => code

def MessageType.fromMessageType (typ : UInt8) : Option MessageType :=
  match typ.toNat with
  | 0 => some .initializeRequest
  | 1 => some .initializeResponse
  | 2 => some .fatalError
  | 3 => some .error
  | 4 => some .asyncLock
  | 5 => some .asyncLockResponse
  | 6 => some .data
  | 7 => some .dataEnd
  | 8 => some .deviceClearComplete
  | 9 => some .deviceClearAcknowledge
  | 10 => some .asyncRemoteLocalControl
  | 11 => some .asyncRemoteLocalResponse
  | 12 => some .trigger
  | 13 => some .interrupted
  | 14 => some .asyncInterrupted
  | 15 => some .asyncMaximumMessageSize
  | 16 => some .asyncMaximumMessageSizeResponse
  | 17 => some .asyncInitialize
  | 18 => some .asyncInitializeResponse
  | 19 => some .asyncDeviceClear
  | 20 => some .asyncServiceRequest
  | 21 => some .asyncStatusQuery
  | 22 => some .asyncStatusResponse
  | 23 => some .asyncDeviceClearAcknowledge
  | 24 => some .asyncLockInfo
  | 25 => some .asyncLockInfoResponse
  | 26 => some .getDescriptors
  | 27 => some .getDescriptorsResponse
  | 28 => some .startTLS
  | 29 => some .asyncStartTLS
  | 30 => some .asyncStartTLSResponse
  | 31 => some .endTLS
  | 32 => some .asyncEndTLS
  | 33 => some .asyncEndTLSResponse
  | 34 => some .getSaslMechanismList
  | 35 => some .getSaslMechanismListResponse
  | 36 => some .authenticationStart
  | 37 => some .authenticationExchange
  | 38 => some .authenticationResult
  | code => if 128 ≤ code then some (.vendorSpecific typ) else none

theorem fromMessageType_getMessageType {typ : MessageType}
    (hvendor : ∀ code, typ = .vendorSpecific code → 128 ≤ code.toNat) :
    MessageType.fromMessageType typ.getMessageType = some typ := by
  cases typ with
  | vendorSpecific code =>
    have hcode := hvendor code rfl
    change MessageType.fromMessageType code = _
    unfold MessageType.fromMessageType
    split
    case h_40 => exact if_pos hcode
    all_goals omega
  | _ => rfl

structure Message where
  messageType : MessageType
  controlCode : UInt8
  messageParameter : UInt32
  payload : List UInt8
  deriving DecidableEq, Repr

inductive FatalErrorCode
  | unidentifiedError
  | poorlyFormattedMessageHeader
  | secureConnectionFailed
  deriving DecidableEq, Repr

def FatalErrorCode.errorCode : FatalErrorCode → UInt8
  | .unidentifiedError => 0
  | .poorlyFormattedMessageHeader => 1
  | .secureConnectionFailed => 5

inductive NonFatalErrorCode
  | unidentifiedError
  | unrecognizedMessageType
  | unrecognizedControlCode
  | messageTooLarge
  deriving DecidableEq, Repr

def NonFatalErrorCode.errorCode : NonFatalErrorCode → UInt8
  | .unidentifiedError => 0
  | .unrecognizedMessageType => 1
  | .unrecognizedControlCode => 2
  | .messageTooLarge => 4

/-- What is wrong with a message, and what its sender is told. -/
inductive Error
  | fatal (code : FatalErrorCode) (message : String)
  | nonFatal (code : NonFatalErrorCode) (message : String)
  deriving DecidableEq, Repr

def Error.isFatal : Error → Bool
  | .fatal .. => true
  | .nonFatal .. => false

/-- The message an error is reported with. -/
def Message.ofError : Error → Message
  | .fatal code message => ⟨.fatalError, code.errorCode, 0, message.toUTF8.toList⟩
  | .nonFatal code message => ⟨.error, code.errorCode, 0, message.toUTF8.toList⟩

def Message.headerSize : Nat := 16

/-- At most `len` bytes: fewer where the stream ends before. -/
def readToEnd (stream : Stream) (len : Nat) : Except ReadError (List UInt8 × Stream) :=
  if len ≤ stream.bytes.length then
    .ok (stream.bytes.take len, { stream with bytes := stream.bytes.drop len })
  else match stream.ending with
    | .eof => .ok (stream.bytes, { stream with bytes := [] })
    | .ioError => .error .other

/-- One message off the stream, or what is wrong with it. `reserved` says whether there is memory
for the payload. -/
def Message.readFrom (maxlen : Nat) (reserved : Bool) (stream : Stream) :
    Except ReadError (Except Error Message × Stream) :=
  match stream.readExact headerSize with
  | .error e => .error e
  | .ok (buf, stream) =>
    if buf.take 2 ≠ [0x48, 0x53] then
      .ok (.error (.fatal .poorlyFormattedMessageHeader "invalid prologue"), stream)
    else
      let typ := buf.getD 2 0
      let controlCode := buf.getD 3 0
      let len := fromBeBytes (buf.drop 8)
      let messageParameter := UInt32.ofNat (fromBeBytes ((buf.drop 4).take 4))
      if maxlen < len then
        .ok (.error (.nonFatal .messageTooLarge "message payload too large"), stream)
      else if !reserved then
        .ok (.error (.fatal .unidentifiedError "out of memory"), stream)
      else match readToEnd stream len with
        | .error e => .error e
        | .ok (payload, stream) => match MessageType.fromMessageType typ with
          | some messageType =>
            .ok (.ok ⟨messageType, controlCode, messageParameter, payload⟩, stream)
          | none =>
            .ok (.error (.nonFatal .unrecognizedMessageType s!"unrecognized message type {typ}"),
              stream)

/-- The header of a message with a payload of this many bytes. -/
def writeHeader (messageType controlCode : UInt8) (messageParameter : UInt32) (len : Nat) :
    List UInt8 :=
  [0x48, 0x53, messageType, controlCode] ++ toBeBytes 4 messageParameter.toNat ++ toBeBytes 8 len

/-- A message as the daemon writes one. -/
def Message.writeTo (message : Message) : List UInt8 :=
  writeHeader message.messageType.getMessageType message.controlCode message.messageParameter
    message.payload.length ++ message.payload

/-- A message as its sender puts it on the wire, of a type this end may not know. The header has
eight bytes for the length. -/
structure Frame where
  messageType : UInt8
  controlCode : UInt8
  messageParameter : UInt32
  payload : List UInt8
  fits : payload.length < 2 ^ 64
  deriving DecidableEq

namespace Frame

def header (frame : Frame) : List UInt8 :=
  writeHeader frame.messageType frame.controlCode frame.messageParameter frame.payload.length

def encode (frame : Frame) : List UInt8 := frame.header ++ frame.payload

@[simp] theorem header_length (frame : Frame) : frame.header.length = 16 := by
  simp [header, writeHeader]

@[simp] theorem encode_length (frame : Frame) :
    frame.encode.length = 16 + frame.payload.length := by
  simp [encode]

/-- The message with only the first bytes of its payload. -/
def cut (frame : Frame) (n : Nat) : Frame where
  messageType := frame.messageType
  controlCode := frame.controlCode
  messageParameter := frame.messageParameter
  payload := frame.payload.take n
  fits := (List.length_take_le' n _).trans_lt frame.fits

/-- What reading a whole message gives. -/
def incoming (maxlen : Nat) (reserved : Bool) (frame : Frame) : Except Error Message :=
  if maxlen < frame.payload.length then
    .error (.nonFatal .messageTooLarge "message payload too large")
  else if !reserved then .error (.fatal .unidentifiedError "out of memory")
  else match MessageType.fromMessageType frame.messageType with
    | some messageType =>
      .ok ⟨messageType, frame.controlCode, frame.messageParameter, frame.payload⟩
    | none => .error (.nonFatal .unrecognizedMessageType
        s!"unrecognized message type {frame.messageType}")

end Frame

section
variable {maxlen : Nat} {reserved : Bool} {frame : Frame} {rest : List UInt8} {ending : StreamEnd}

/-- Reading goes on from the header alone. -/
private theorem readFrom_header :
    Message.readFrom maxlen reserved ⟨frame.header ++ rest, ending⟩ =
      if maxlen < frame.payload.length then
        .ok (.error (.nonFatal .messageTooLarge "message payload too large"), ⟨rest, ending⟩)
      else if !reserved then
        .ok (.error (.fatal .unidentifiedError "out of memory"), ⟨rest, ending⟩)
      else match readToEnd ⟨rest, ending⟩ frame.payload.length with
        | .error e => .error e
        | .ok (payload, stream) => match MessageType.fromMessageType frame.messageType with
          | some messageType =>
            .ok (.ok ⟨messageType, frame.controlCode, frame.messageParameter, payload⟩, stream)
          | none =>
            .ok (.error (.nonFatal .unrecognizedMessageType
              s!"unrecognized message type {frame.messageType}"), stream) := by
  have hdecoded : fromBeBytes (toBeBytes 8 frame.payload.length) = frame.payload.length :=
    (fromBeBytes_toBeBytes 8 _).trans (Nat.mod_eq_of_lt frame.fits)
  have hparameter : UInt32.ofNat (fromBeBytes (toBeBytes 4 frame.messageParameter.toNat)) =
      frame.messageParameter := by
    have hword : fromBeBytes (toBeBytes 4 frame.messageParameter.toNat) =
        frame.messageParameter.toNat :=
      (fromBeBytes_toBeBytes 4 _).trans (Nat.mod_eq_of_lt frame.messageParameter.toNat_lt)
    rw [hword, UInt32.ofNat_toNat]
  have hread : (Stream.mk (frame.header ++ rest) ending).readExact Message.headerSize =
      .ok (frame.header, ⟨rest, ending⟩) := Stream.readExact_append frame.header_length
  have hprologue : frame.header.take 2 = [0x48, 0x53] := rfl
  have htyp : frame.header.getD 2 0 = frame.messageType := rfl
  have hcontrol : frame.header.getD 3 0 = frame.controlCode := rfl
  have hparam : (frame.header.drop 4).take 4 = toBeBytes 4 frame.messageParameter.toNat := by
    simp [Frame.header, writeHeader]
  have hsize : frame.header.drop 8 = toBeBytes 8 frame.payload.length := by
    simp [Frame.header, writeHeader]
  simp only [Message.readFrom, hread, hprologue, htyp, hcontrol, hparam, hsize, hdecoded,
    hparameter, ne_eq, not_true_eq_false, if_false]

/-- A message within the limit is taken off the stream whole. -/
theorem readFrom_whole (hmax : frame.payload.length ≤ maxlen) :
    Message.readFrom maxlen true ⟨frame.encode ++ rest, ending⟩ =
      .ok (frame.incoming maxlen true, ⟨rest, ending⟩) := by
  have hpayload : readToEnd ⟨frame.payload ++ rest, ending⟩ frame.payload.length =
      .ok (frame.payload, ⟨rest, ending⟩) := by
    simp [readToEnd]
  rw [Frame.encode, List.append_assoc, readFrom_header, if_neg (by omega), if_neg (by simp),
    hpayload, Frame.incoming, if_neg (by omega), if_neg (by simp)]
  cases MessageType.fromMessageType frame.messageType <;> rfl

/-- Without memory for the payload the message ends the channel, however much of it comes. -/
theorem readFrom_noMemory_header (hmax : frame.payload.length ≤ maxlen) :
    Message.readFrom maxlen false ⟨frame.header ++ rest, ending⟩ =
      .ok (frame.incoming maxlen false, ⟨rest, ending⟩) := by
  rw [readFrom_header, if_neg (by omega), if_pos (by simp), Frame.incoming, if_neg (by omega),
    if_pos (by simp)]

theorem readFrom_noMemory (hmax : frame.payload.length ≤ maxlen) :
    Message.readFrom maxlen false ⟨frame.encode ++ rest, ending⟩ =
      .ok (frame.incoming maxlen false, ⟨frame.payload ++ rest, ending⟩) := by
  rw [Frame.encode, List.append_assoc]
  exact readFrom_noMemory_header hmax

/-- A stream that ends in a payload: what came of it is taken for all of it, unless the connection
broke. -/
theorem readFrom_cut {n : Nat} (hmax : frame.payload.length ≤ maxlen)
    (hn : n < frame.payload.length) :
    Message.readFrom maxlen true ⟨frame.header ++ frame.payload.take n, ending⟩ =
      match ending with
      | .eof => .ok ((frame.cut n).incoming maxlen true, ⟨[], .eof⟩)
      | .ioError => .error .other := by
  have hlength : (frame.payload.take n).length = n := List.length_take_of_le hn.le
  have hshort : ¬ maxlen < (frame.cut n).payload.length := by
    change ¬ maxlen < (frame.payload.take n).length
    omega
  rw [readFrom_header, if_neg (by omega), if_neg (by simp), readToEnd,
    if_neg (by simp only [hlength]; omega)]
  cases ending with
  | ioError => rfl
  | eof =>
    rw [Frame.incoming, if_neg hshort, if_neg (by simp)]
    simp only [Frame.cut]
    cases MessageType.fromMessageType frame.messageType <;> rfl

/-- Of a message over the limit only the header is taken. -/
theorem readFrom_tooLarge (hmax : maxlen < frame.payload.length) :
    Message.readFrom maxlen reserved ⟨frame.encode ++ rest, ending⟩ =
      .ok (frame.incoming maxlen reserved, ⟨frame.payload ++ rest, ending⟩) := by
  rw [Frame.encode, List.append_assoc, readFrom_header, if_pos hmax, Frame.incoming,
    if_pos hmax]

/-- What the daemon writes it would read back. -/
theorem readFrom_writeTo {message : Message} (hlen : message.payload.length < 2 ^ 64)
    (hmax : message.payload.length ≤ maxlen)
    (hvendor : ∀ code, message.messageType = .vendorSpecific code → 128 ≤ code.toNat) :
    Message.readFrom maxlen true ⟨message.writeTo ++ rest, ending⟩ =
      .ok (.ok message, ⟨rest, ending⟩) := by
  have htype : MessageType.fromMessageType message.messageType.getMessageType =
      some message.messageType := fromMessageType_getMessageType hvendor
  let frame : Frame := ⟨message.messageType.getMessageType, message.controlCode,
    message.messageParameter, message.payload, hlen⟩
  have hread : Message.readFrom maxlen true ⟨frame.encode ++ rest, ending⟩ =
      .ok (frame.incoming maxlen true, ⟨rest, ending⟩) := readFrom_whole hmax
  rw [Frame.incoming, if_neg (Nat.not_lt.mpr hmax), if_neg (by simp), htype] at hread
  exact hread

end
end Ugpibd.Hislip
