import Ugpibd.Vxi11.DeviceRead
import Ugpibd.Vxi11.Docmd
import Ugpibd.Vxi11.Records
import Ugpibd.Vxi11.ReplyCodec

/-! The core channel's connection loop: record after record, with at most one reply to each. What the
procedures do is left open, but for the two whose answers have no fixed length. -/
namespace Ugpibd.Vxi11.CoreChannel
open Library Xdr Messages Rpc DataCalls Backend

def deviceCoreProg : UInt32 := 0x0607AF
def deviceCoreVers : UInt32 := 1

inductive Procedure
  | createLink
  | deviceWrite
  | deviceRead
  | deviceReadstb
  | deviceTrigger
  | deviceClear
  | deviceRemote
  | deviceLocal
  | deviceLock
  | deviceUnlock
  | deviceEnableSrq
  | deviceDocmd
  | destroyLink
  | createIntrChan
  | destroyIntrChan
  deriving DecidableEq, Repr

def Procedure.number : Procedure → UInt32
  | .createLink => 10
  | .deviceWrite => 11
  | .deviceRead => 12
  | .deviceReadstb => 13
  | .deviceTrigger => 14
  | .deviceClear => 15
  | .deviceRemote => 16
  | .deviceLocal => 17
  | .deviceLock => 18
  | .deviceUnlock => 19
  | .deviceEnableSrq => 20
  | .deviceDocmd => 22
  | .destroyLink => 23
  | .createIntrChan => 25
  | .destroyIntrChan => 26

def Procedure.all : List Procedure :=
  [.createLink, .deviceWrite, .deviceRead, .deviceReadstb, .deviceTrigger, .deviceClear,
    .deviceRemote, .deviceLocal, .deviceLock, .deviceUnlock, .deviceEnableSrq, .deviceDocmd,
    .destroyLink, .createIntrChan, .destroyIntrChan]

def Procedure.ofNumber (proc : UInt32) : Option Procedure :=
  Procedure.all.find? fun procedure => procedure.number = proc

/-- The daemon behind a connection. Its state `σ` is whatever the answers depend on: the links and
the locks, the bus, the other connections, the clock. -/
structure Server (E σ : Type) where
  usb : UsbErrors E
  maxRecvSize : UInt32
  interface : Docmd.Interface σ
  createLink : CreateLinkParms → σ → Messages.CreateLinkResp × σ
  deviceWrite : DeviceWriteParms → σ → DeviceWriteResp × σ
  readLink : DeviceReadParms → σ → Option (ReadLink E) × σ
  deviceReadstb : DeviceGenericParms → σ → DeviceReadStbResp × σ
  deviceSimple : Procedure → DeviceGenericParms → σ → UInt32 × σ
  destroyLink : Int32 → σ → ErrorCode × σ
  deviceLock : DeviceLockParms → σ → ErrorCode × σ
  deviceUnlock : Int32 → σ → ErrorCode × σ
  deviceEnableSrq : DeviceEnableSrqParms → σ → ErrorCode × σ
  createIntrChan : DeviceRemoteFunc → σ → ErrorCode × σ
  destroyIntrChan : σ → ErrorCode × σ

variable {E σ α : Type}

/-- No backend gives a read more than it asked for. -/
def Server.Honest (server : Server E σ) : Prop :=
  ∀ parms s, ∀ link ∈ (server.readLink parms s).1, ∀ attempt ∈ link.attempts, attempt.Honest

/-- A procedure on its decoded arguments; arguments that do not decode leave the call's xid. -/
def decoded (xid : UInt32) (parms : Except XdrError α) (s : σ) (run : α → List UInt8 × σ) :
    Except UInt32 (List UInt8) × σ :=
  match parms with
  | .ok parms => (run parms).map .ok id
  | .error _ => (.error xid, s)

def encodeError (result : ErrorCode × σ) : List UInt8 × σ :=
  result.map (fun error => encodeDeviceError error.asU32) id

def results (server : Server E σ) (xid : UInt32) (args : List UInt8) (s : σ) :
    Procedure → Except UInt32 (List UInt8) × σ
  | .createLink => decoded xid (CreateLinkParms.decode args) s fun parms =>
      (server.createLink parms s).map CreateLinkResp.encode id
  | .deviceWrite => match DeviceWriteParms.decode server.maxRecvSize args with
    | .ok parms => (server.deviceWrite parms s).map (fun resp => .ok resp.encode) id
    -- more data than `create_link` promised to take is the client's error, and nothing is sent on
    | .error (.tooLong _ _) => (.ok (DeviceWriteResp.encode ⟨ErrorCode.parameterError.asU32, 0⟩), s)
    | .error _ => (.error xid, s)
  | .deviceRead => decoded xid (DeviceReadParms.decode args) s fun parms =>
      (server.readLink parms s).map (fun found => (deviceRead server.usb parms found).encode) id
  | .deviceReadstb => decoded xid (DeviceGenericParms.decode args) s fun parms =>
      (server.deviceReadstb parms s).map DeviceReadStbResp.encode id
  | .destroyLink => decoded xid (Cursor.decode Cursor.i32 args) s fun lid =>
      encodeError (server.destroyLink lid s)
  | .deviceLock => decoded xid (DeviceLockParms.decode args) s fun parms =>
      encodeError (server.deviceLock parms s)
  | .deviceUnlock => decoded xid (Cursor.decode Cursor.i32 args) s fun lid =>
      encodeError (server.deviceUnlock lid s)
  | .deviceEnableSrq => decoded xid (DeviceEnableSrqParms.decode args) s fun parms =>
      encodeError (server.deviceEnableSrq parms s)
  | .createIntrChan => decoded xid (DeviceRemoteFunc.decode args) s fun parms =>
      encodeError (server.createIntrChan parms s)
  | .destroyIntrChan => (encodeError (server.destroyIntrChan s)).map .ok id
  | .deviceDocmd => decoded xid (DeviceDocmdParms.decode args) s fun parms =>
      (Docmd.deviceDocmd server.interface parms s).map DeviceDocmdResp.encode id
  | procedure => decoded xid (DeviceGenericParms.decode args) s fun parms =>
      (server.deviceSimple procedure parms s).map encodeDeviceError id

/-- One call. The error is the xid of a call whose arguments did not decode. -/
def dispatch (server : Server E σ) (header : CallHeader) (args : List UInt8) (s : σ) :
    Except UInt32 (List UInt8) × σ :=
  if header.prog ≠ deviceCoreProg then (.ok (replyProgUnavail header.xid), s)
  else if header.vers ≠ deviceCoreVers then
    (.ok (replyProgMismatch header.xid deviceCoreVers deviceCoreVers), s)
  else match Procedure.ofNumber header.proc with
    | some procedure =>
      (results server header.xid args s procedure).map (·.map (replySuccess header.xid)) id
    | none => (.ok (replyProcUnavail header.xid), s)

def orGarbageArgs : Except UInt32 (List UInt8) → List UInt8
  | .ok reply => reply
  | .error xid => replyGarbageArgs xid

/-- The reply to a record, if it gets one. -/
def answer (server : Server E σ) (record : List UInt8) (s : σ) : Option (List UInt8) × σ :=
  match decodeCall record with
  | .ok (header, args) =>
    (dispatch server header args s).map (fun reply => some (orGarbageArgs reply)) id
  | .error (.rpcVersion xid _) => (some (replyRpcMismatch xid), s)
  | .error (.notACall _) => (none, s)
  | .error (.garbled _) => (none, s)

/-- Records are read up to more than any call needs, so that a write that is too long can still be
refused. -/
def Server.maxRecord (server : Server E σ) : Nat := server.maxRecvSize.toNat * 2 + 1024

/-- What a connection writes for what it is sent. -/
def serveConnection (server : Server E σ) (stream : Stream) (s : σ) : List UInt8 :=
  match _hrecord : readRecord server.maxRecord stream with
  | .error _ => []
  | .ok none => []
  | .ok (some (record, rest)) => match answer server record s with
    | (none, s) => serveConnection server rest s
    | (some reply, s) => match writeRecord reply with
      | none => []
      | some written => written ++ serveConnection server rest s
termination_by stream.bytes.length
decreasing_by
  · exact readFragments_length _hrecord
  · exact readFragments_length _hrecord

/-- A record in any split its sender may choose. -/
structure FramedRecord where
  bodies : List (List UInt8)
  final : List UInt8
  bodies_lt : ∀ body ∈ bodies, body.length < 2 ^ 31
  final_lt : final.length < 2 ^ 31

def FramedRecord.record (framed : FramedRecord) : List UInt8 := framed.bodies.flatten ++ framed.final

def FramedRecord.bytes (framed : FramedRecord) : List UInt8 := fragments framed.bodies framed.final

/-- The replies to records: one for each that begins a call, in the records' order. -/
inductive Replies : List (List UInt8) → List (List UInt8) → Prop
  | nil : Replies [] []
  | answered {xid : UInt32} {record reply : List UInt8} {records replies : List (List UInt8)} :
      BeginsCall xid record → AcceptedFor xid reply → Replies records replies →
      Replies (record :: records) (reply :: replies)
  | silent {record : List UInt8} {records replies : List (List UInt8)} :
      (∀ xid, ¬ BeginsCall xid record) → Replies records replies →
      Replies (record :: records) replies

section
variable {server : Server E σ} {s : σ} {xid : UInt32} {args record : List UInt8}
  {stream : Stream} {n : Nat}

theorem putOpaque_length_le (data : List UInt8) : (putOpaque data).length ≤ data.length + 7 := by
  have hpad : padOf data.length < 4 := Nat.mod_lt _ (by decide)
  simp only [putOpaque, List.flatten_cons, List.flatten_nil, List.append_nil, List.length_append,
    putU32_length, List.length_replicate]
  omega

theorem of_decode {cursor : Cursor α} {P : α → Prop} {m : α}
    (h : Cursor.decode cursor args = .ok m) (hspells : Spells .truncated cursor fun m _ => P m) :
    P m := by
  obtain ⟨rest, hrun⟩ := Cursor.decode_eq_ok.mp h
  obtain ⟨-, -, -, hspelled⟩ := hspells _ _ _ hrun
  exact hspelled

theorem docmdParms_dataIn_length {parms : DeviceDocmdParms}
    (h : DeviceDocmdParms.decode args = .ok parms) :
    parms.dataIn.length ≤ docmdDataMax.toNat := by
  refine of_decode (P := fun m => m.dataIn.length ≤ docmdDataMax.toNat) h ?_
  refine Cursor.i32_spells.bind fun lid _ _ => ?_
  refine Cursor.u32_spells.bind fun flags _ _ => ?_
  refine Cursor.u32_spells.bind fun ioTimeoutMs _ _ => ?_
  refine Cursor.u32_spells.bind fun lockTimeoutMs _ _ => ?_
  refine Cursor.i32_spells.bind fun cmd _ _ => ?_
  refine Cursor.bool_spells.bind fun networkOrder _ _ => ?_
  refine Cursor.i32_spells.bind fun datasize _ _ => ?_
  refine (Cursor.byteString_spells _).bind fun dataIn _ hdata => ?_
  obtain ⟨-, -, hmax, -⟩ := hdata
  exact spells_pure hmax

/-- More than any procedure answers. -/
def resultsMax : Nat := maxRead + 16

/-- Results that fit a reply, or the xid of the call they are missing for. -/
def Usable (xid : UInt32) : Except UInt32 (List UInt8) → Prop
  | .ok results => results.length ≤ resultsMax
  | .error got => got = xid

theorem decoded_usable {parms : Except XdrError α} {run : α → List UInt8 × σ}
    (h : ∀ m, parms = .ok m → (run m).1.length ≤ resultsMax) :
    Usable xid (decoded xid parms s run).1 := by
  unfold decoded
  split
  · rename_i m
    exact h m rfl
  · exact rfl

theorem encodeError_length (result : ErrorCode × σ) : (encodeError result).1.length = 4 :=
  putU32_length _

/-- Results of a fixed length. -/
theorem decoded_usable_of_length {parms : Except XdrError α} {run : α → List UInt8 × σ}
    (h : ∀ m, (run m).1.length ≤ 16) : Usable xid (decoded xid parms s run).1 :=
  decoded_usable fun m _ => (h m).trans (by decide)

theorem createLinkResp_length (m : Messages.CreateLinkResp) : m.encode.length = 16 := by
  simp [CreateLinkResp.encode, putI32]

theorem deviceWriteResp_length (m : DeviceWriteResp) : m.encode.length = 8 := by
  simp [DeviceWriteResp.encode]

theorem deviceReadStbResp_length (m : DeviceReadStbResp) : m.encode.length = 8 := by
  simp [DeviceReadStbResp.encode]

theorem deviceReadResp_length_le (m : DeviceReadResp) : m.encode.length ≤ m.data.length + 15 := by
  have hdata := putOpaque_length_le m.data
  simp only [DeviceReadResp.encode, List.flatten_cons, List.flatten_nil, List.append_nil,
    List.length_append, putU32_length]
  omega

theorem deviceDocmdResp_length_le (m : DeviceDocmdResp) :
    m.encode.length ≤ m.dataOut.length + 11 := by
  have hdata := putOpaque_length_le m.dataOut
  simp only [DeviceDocmdResp.encode, List.flatten_cons, List.flatten_nil, List.append_nil,
    List.length_append, putU32_length]
  omega

theorem results_usable (hhonest : server.Honest) (xid : UInt32) (args : List UInt8) (s : σ)
    (procedure : Procedure) : Usable xid (results server xid args s procedure).1 := by
  cases procedure with
  | createLink =>
    exact decoded_usable_of_length fun _ => (createLinkResp_length _).le
  | deviceWrite =>
    have hlength (resp : DeviceWriteResp) : resp.encode.length ≤ resultsMax :=
      (deviceWriteResp_length resp).le.trans (by decide)
    rw [results]
    split
    · exact hlength _
    · exact hlength _
    · exact rfl
  | deviceRead =>
    refine decoded_usable fun parms _ => ?_
    have hdata := deviceRead_data_length server.usb parms (hhonest parms s)
    exact (deviceReadResp_length_le _).trans (Nat.add_le_add hdata (by decide))
  | deviceReadstb =>
    exact decoded_usable_of_length fun _ => (deviceReadStbResp_length _).le.trans (by decide)
  | deviceDocmd =>
    refine decoded_usable fun parms hparms => ?_
    have hdata := (Docmd.deviceDocmd_dataOut_length server.interface parms s).trans
      (docmdParms_dataIn_length hparms)
    exact (deviceDocmdResp_length_le _).trans ((Nat.add_le_add_right hdata 11).trans (by decide))
  | destroyIntrChan =>
    exact (encodeError_length _).le.trans (by decide)
  | destroyLink | deviceLock | deviceUnlock | deviceEnableSrq | createIntrChan =>
    exact decoded_usable_of_length fun _ => (encodeError_length _).le.trans (by decide)
  | deviceTrigger | deviceClear | deviceRemote | deviceLocal =>
    exact decoded_usable_of_length fun _ => (putU32_length _).le.trans (by decide)

/-- A reply that fits a record, for the client that sent the xid. -/
structure ReplyTo (xid : UInt32) (reply : List UInt8) : Prop where
  acceptedFor : AcceptedFor xid reply
  fits : reply.length ≤ 0x7FFFFFFF

theorem accepted_length (xid stat : UInt32) : (accepted xid stat).length = 24 := by
  simp [accepted, putOpaque, padOf]

theorem replyTo_accepted {rest : List UInt8} (stat : UInt32) (h : rest.length ≤ resultsMax) :
    ReplyTo xid (accepted xid stat ++ rest) where
  acceptedFor := acceptedFor_accepted xid stat rest
  fits := by
    rw [List.length_append, accepted_length]
    exact (Nat.add_le_add_left h 24).trans (by decide)

theorem replyTo_stat (xid stat : UInt32) : ReplyTo xid (accepted xid stat) := by
  have h : ReplyTo xid (accepted xid stat ++ []) := replyTo_accepted stat (Nat.zero_le _)
  rwa [List.append_nil] at h

theorem dispatch_replyTo (hhonest : server.Honest) (header : CallHeader) (args : List UInt8) (s : σ) :
    ReplyTo header.xid (orGarbageArgs (dispatch server header args s).1) := by
  unfold dispatch
  split_ifs
  · exact replyTo_stat _ _
  · refine replyTo_accepted _ ?_
    simp [resultsMax]
  split
  · rename_i procedure _
    have husable := results_usable hhonest header.xid args s procedure
    cases hresults : (results server header.xid args s procedure).1 with
    | ok results =>
      rw [hresults] at husable
      simp only [Prod.map_fst, hresults]
      exact replyTo_accepted _ husable
    | error got =>
      rw [hresults] at husable
      obtain rfl : got = header.xid := husable
      simp only [Prod.map_fst, hresults]
      exact replyTo_stat _ _
  · exact replyTo_stat _ _

theorem replyTo_rpcMismatch (xid : UInt32) : ReplyTo xid (replyRpcMismatch xid) where
  acceptedFor := acceptedFor_rpcMismatch xid
  fits := by simp [replyRpcMismatch]

/-- A record gets a reply to its call, or none if it begins none. -/
theorem answer_cases (hhonest : server.Honest) (record : List UInt8) (s : σ) :
    (∃ xid reply s', BeginsCall xid record ∧ ReplyTo xid reply ∧
      answer server record s = (some reply, s')) ∨
    (∀ xid, ¬ BeginsCall xid record) ∧ ∃ s', answer server record s = (none, s') := by
  cases taken record with
  | version hbegins hdecode =>
    refine .inl ⟨_, _, s, hbegins, replyTo_rpcMismatch _, ?_⟩
    rw [answer, hdecode]
  | @call header args hbegins hdecode =>
    refine .inl ⟨_, _, (dispatch server header args s).2, hbegins,
      dispatch_replyTo hhonest header args s, ?_⟩
    rw [answer, hdecode]
    rfl
  | garbled hdecode =>
    refine .inr ⟨fun xid hbegins => ?_, s, by rw [answer, hdecode]⟩
    rcases hbegins.decodeCall with ⟨vers, h⟩ | ⟨header, args, -, h⟩ <;> rw [h] at hdecode <;>
      cases hdecode
  | notACall hdecode =>
    refine .inr ⟨fun xid hbegins => ?_, s, by rw [answer, hdecode]⟩
    rcases hbegins.decodeCall with ⟨vers, h⟩ | ⟨header, args, -, h⟩ <;> rw [h] at hdecode <;>
      cases hdecode

theorem serveConnection_end (h : ∀ result, readRecord server.maxRecord stream ≠ .ok (some result)) :
    serveConnection server stream s = [] := by
  unfold serveConnection
  split
  · rfl
  · rfl
  · rename_i heq
    exact absurd heq (h _)

theorem serveConnection_record {after : Stream}
    (h : readRecord server.maxRecord stream = .ok (some (record, after))) :
    serveConnection server stream s = match answer server record s with
      | (none, s) => serveConnection server after s
      | (some reply, s) => match writeRecord reply with
        | none => []
        | some written => written ++ serveConnection server after s := by
  rw [serveConnection]
  split <;> rename_i heq <;> rw [h] at heq <;> cases heq
  rfl

theorem readRecord_framed (framed : FramedRecord)
    (h : framed.record.length ≤ n) (rest : List UInt8) (ending : StreamEnd) :
    readRecord n ⟨framed.bytes ++ rest, ending⟩ = .ok (some (framed.record, ⟨rest, ending⟩)) := by
  rw [FramedRecord.record, List.length_append] at h
  exact readFragments_fragments framed.bodies_lt framed.final_lt (by simpa using h)

theorem readRecord_tooLong (framed : FramedRecord)
    (h : n < framed.record.length) (rest : List UInt8) (ending : StreamEnd) :
    readRecord n ⟨framed.bytes ++ rest, ending⟩ = .error .invalidData := by
  rw [FramedRecord.record, List.length_append] at h
  exact readFragments_tooLong framed.bodies_lt framed.final_lt (by simpa using h)

/-- A connection at the end of what it is sent. -/
theorem serveConnection_nil (server : Server E σ) (ending : StreamEnd) (s : σ) :
    serveConnection server ⟨[], ending⟩ s = [] := by
  refine serveConnection_end fun result h => ?_
  rw [readRecord, readFragments_short (by simp)] at h
  split at h <;> cases h

theorem encodeCall_length (xid prog vers proc : UInt32) (args : List UInt8) :
    (encodeCall xid prog vers proc args).length = 40 + args.length := by
  simp [encodeCall, encodeHeader, putOpaque, padOf]
  omega

/-- The records a connection takes: those before the first that is too long. -/
def Server.taken (server : Server E σ) (sent : List FramedRecord) : List FramedRecord :=
  sent.takeWhile fun framed => framed.record.length ≤ server.maxRecord

/-- A call as a single fragment. -/
def FramedRecord.call (xid prog vers proc : UInt32) (args : List UInt8) (h : args.length < 2 ^ 30) :
    FramedRecord where
  bodies := []
  final := encodeCall xid prog vers proc args
  bodies_lt := by simp
  final_lt := by
    rw [encodeCall_length]
    omega

/-- A daemon with no room for links, and otherwise as it is configured by default. -/
def noLinks : Server Unit Unit where
  usb := ⟨fun _ => [], []⟩
  maxRecvSize := 65536
  interface := {
    linkFor := fun _ _ => none
    acquireAccess := fun _ _ _ s => (.ok (), s)
    takeAbort := fun _ s => (false, s)
    sendBusCommand := fun _ s => (true, s)
    busLines := fun s => (none, s)
    setAtn := fun _ s => (true, s)
    ren := fun _ s => (true, s)
    controllerPad := fun _ => 0
    setControllerPad := fun _ s => (true, s)
    ifc := fun s => (true, s) }
  createLink := fun _ s => (⟨ErrorCode.outOfResources.asU32, 0, 0, 0⟩, s)
  deviceWrite := fun _ s => (⟨ErrorCode.invalidLinkIdentifier.asU32, 0⟩, s)
  readLink := fun _ s => (none, s)
  deviceReadstb := fun _ s => (⟨ErrorCode.invalidLinkIdentifier.asU32, 0⟩, s)
  deviceSimple := fun _ _ s => (ErrorCode.invalidLinkIdentifier.asU32, s)
  destroyLink := fun _ s => (.invalidLinkIdentifier, s)
  deviceLock := fun _ s => (.invalidLinkIdentifier, s)
  deviceUnlock := fun _ s => (.invalidLinkIdentifier, s)
  deviceEnableSrq := fun _ s => (.invalidLinkIdentifier, s)
  createIntrChan := fun _ s => (.channelNotEstablished, s)
  destroyIntrChan := fun s => (.channelNotEstablished, s)

theorem noLinks_honest : noLinks.Honest := by
  intro parms s link hlink
  cases hlink

end
end Ugpibd.Vxi11.CoreChannel
