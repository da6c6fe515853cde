import Ugpibd.Hislip.Wire
import Ugpibd.Library.Chunks

/-! A reply on its way from the server to a client: split so that no message is larger than the client
declared, and put together again by the client's query. -/
namespace Ugpibd.Hislip
open Library Vxi11

def firstMessageId : UInt32 := 0xffffff00
def stbRqs : UInt8 := 0x40
def stbMav : UInt8 := 0x10

/-- The first bit of a control code: `RmtDelivered` on data, overlapped on a device clear. -/
def firstBit (controlCode : UInt8) : Bool := controlCode &&& 1 != 0

/-- What the two channels of a session share for replies and the status byte. -/
structure SessionEntry where
  clientMaxMessageSize : UInt64
  consumedStb : Option UInt8 := none
  mav : Bool := false
  lastMessageId : UInt32 := firstMessageId - 2
  overlapped : Bool
  nextServerMessageId : UInt32 := firstMessageId
  deriving DecidableEq, Repr

namespace SessionEntry

/-- A Data, DataEND or Trigger message has come. It makes a held status byte stale. -/
def noteClientMessage (entry : SessionEntry) (msg : Message) : SessionEntry :=
  { entry with
    lastMessageId := msg.messageParameter
    mav := if firstBit msg.controlCode then false else entry.mav
    consumedStb := none }

/-- The mode a device clear agreed on. -/
def setOverlapped (entry : SessionEntry) (overlapped : Bool) : SessionEntry :=
  { entry with mav := false, overlapped, nextServerMessageId := firstMessageId }

/-- The id of the next message of a reply: its own sequence in overlapped mode, else the request's. -/
def responseMessageId (entry : SessionEntry) (requestId : UInt32) : UInt32 × SessionEntry :=
  if entry.overlapped then
    (entry.nextServerMessageId, { entry with nextServerMessageId := entry.nextServerMessageId + 2 })
  else (requestId, entry)

/-- MAV for a status query that quotes this id. -/
def mavBit (entry : SessionEntry) (messageId : UInt32) : UInt8 :=
  if entry.overlapped then
    if messageId = entry.nextServerMessageId - 2 then 0 else stbMav
  else if !entry.mav then 0
  else if messageId ≠ entry.lastMessageId then 0
  else stbMav

end SessionEntry

/-- The smallest piece of a reply, whatever the client declared. -/
def minChunk : Nat := 256

/-- The room for payload in one message to a client that declared this maximum. -/
def chunkSize (clientMax : UInt64) : Nat := max (clientMax.toNat - Message.headerSize) minChunk

/-- The last piece is the one that nothing follows. -/
def markEnd : List (List UInt8) → List (MessageType × List UInt8)
  | [] => []
  | [chunk] => [(.dataEnd, chunk)]
  | chunk :: rest => (.data, chunk) :: markEnd rest

/-- The messages a reply becomes, without their ids; an empty reply is still one. -/
def replyPieces (clientMax : UInt64) (data : List UInt8) : List (MessageType × List UInt8) :=
  if data = [] then [(.dataEnd, [])] else markEnd (chunks (chunkSize clientMax) data)

/-- One message of a reply. -/
def SessionEntry.writePiece (entry : SessionEntry) (requestId : UInt32)
    (piece : MessageType × List UInt8) : Message × SessionEntry :=
  let (id, entry) := entry.responseMessageId requestId
  (⟨piece.1, 0, id, piece.2⟩, entry)

def SessionEntry.writePieces (entry : SessionEntry) (requestId : UInt32) :
    List (MessageType × List UInt8) → List Message × SessionEntry
  | [] => ([], entry)
  | piece :: rest =>
    let (message, entry) := entry.writePiece requestId piece
    let (messages, entry) := entry.writePieces requestId rest
    (message :: messages, entry)

/-- The reply as it goes out when nothing changes the session meanwhile. -/
def SessionEntry.writeResponse (entry : SessionEntry) (requestId : UInt32) (data : List UInt8) :
    List Message × SessionEntry :=
  entry.writePieces requestId (replyPieces entry.clientMaxMessageSize data)

namespace Client

/-- The largest payload the client takes in one message. -/
def maxMessageSize : Nat := 16 * 1024 * 1024

/-- Why a query fails. -/
inductive QueryError
  | io (e : ReadError)
  | protocol (e : Error)
  | messageId (got id : UInt32)
  | interrupted (messageId : UInt32)
  | device (payload : List UInt8)
  | fatal (payload : List UInt8)
  | unexpected (messageType : MessageType)
  deriving DecidableEq, Repr

/-- A query's loop reads on, or is over. -/
inductive Turn
  | reads (out : List UInt8)
  | returns (out : List UInt8)
  | fails (e : QueryError)
  deriving DecidableEq, Repr

/-- What a query makes of the next message, with what it has of the reply. -/
def queryTurn (id : UInt32) (out : List UInt8) (msg : Message) : Turn :=
  match msg.messageType with
  | .data =>
    if msg.messageParameter ≠ id then .fails (.messageId msg.messageParameter id)
    else .reads (out ++ msg.payload)
  | .dataEnd =>
    if msg.messageParameter ≠ id then .fails (.messageId msg.messageParameter id)
    else .returns (out ++ msg.payload)
  | .interrupted => .fails (.interrupted msg.messageParameter)
  | .error => .fails (.device msg.payload)
  | .fatalError => .fails (.fatal msg.payload)
  | other => .fails (.unexpected other)

/-- One message, if there is memory for it. -/
def readMsg (stream : Stream) : Except QueryError (Message × Stream) :=
  match Message.readFrom maxMessageSize true stream with
  | .error e => .error (.io e)
  | .ok (.error e, _) => .error (.protocol e)
  | .ok (.ok msg, rest) => .ok (msg, rest)

end Client

theorem readToEnd_length {stream rest : Stream} {payload : List UInt8} {len : Nat}
    (h : readToEnd stream len = .ok (payload, rest)) :
    rest.bytes.length ≤ stream.bytes.length := by
  unfold readToEnd at h
  split at h
  · obtain ⟨-, rfl⟩ := Prod.mk.inj (Except.ok.inj h)
    simp
  · split at h
    · obtain ⟨-, rfl⟩ := Prod.mk.inj (Except.ok.inj h)
      simp
    · cases h

/-- Every message read takes its header off the stream. -/
theorem readFrom_length {maxlen : Nat} {reserved : Bool} {stream rest : Stream}
    {incoming : Except Error Message}
    (h : Message.readFrom maxlen reserved stream = .ok (incoming, rest)) :
    rest.bytes.length < stream.bytes.length := by
  unfold Message.readFrom at h
  split at h
  · cases h
  · rename_i buf body hheader
    have hlen := Stream.readExact_length hheader
    have hbody : rest.bytes.length ≤ body.bytes.length := by
      dsimp only at h
      split_ifs at h
      · obtain ⟨-, rfl⟩ := Prod.mk.inj (Except.ok.inj h)
        exact Nat.le_refl _
      · obtain ⟨-, rfl⟩ := Prod.mk.inj (Except.ok.inj h)
        exact Nat.le_refl _
      · obtain ⟨-, rfl⟩ := Prod.mk.inj (Except.ok.inj h)
        exact Nat.le_refl _
      · split at h
        · cases h
        · rename_i hread
          have := readToEnd_length hread
          split at h <;>
          · obtain ⟨-, rfl⟩ := Prod.mk.inj (Except.ok.inj h)
            exact this
    simp only [Message.headerSize] at hlen
    omega

namespace Client

theorem readMsg_length {stream rest : Stream} {msg : Message}
    (h : readMsg stream = .ok (msg, rest)) : rest.bytes.length < stream.bytes.length := by
  unfold readMsg at h
  split at h
  · cases h
  · cases h
  · rename_i hread
    obtain ⟨rfl, rfl⟩ := Prod.mk.inj (Except.ok.inj h)
    exact readFrom_length hread

/-- The loop of a query over what the server sends. -/
def queryLoop (id : UInt32) (out : List UInt8) (stream : Stream) :
    Except QueryError (List UInt8 × Stream) :=
  match _h : readMsg stream with
  | .error e => .error e
  | .ok (msg, rest) => match queryTurn id out msg with
    | .reads out => queryLoop id out rest
    | .returns out => .ok (out, rest)
    | .fails e => .error e
termination_by stream.bytes.length
decreasing_by exact readMsg_length _h

end Client

section
variable {declared : UInt64} {reply : List UInt8} {requestId : UInt32} {messages : List Message}

theorem chunkSize_pos (declared : UInt64) : 0 < chunkSize declared := by
  simp only [chunkSize, minChunk]
  omega

theorem map_snd_markEnd (pieces : List (List UInt8)) : (markEnd pieces).map Prod.snd = pieces := by
  fun_induction markEnd pieces with
  | case1 => rfl
  | case2 => rfl
  | case3 piece rest _ ih => rw [List.map_cons, ih]

/-- Only the last piece ends the reply. -/
theorem markEnd_shape {pieces : List (List UInt8)} (h : pieces ≠ []) :
    ∃ front last, markEnd pieces = front ++ [(.dataEnd, last)] ∧ ∀ p ∈ front, p.1 = .data := by
  fun_induction markEnd pieces with
  | case1 => exact absurd rfl h
  | case2 piece => exact ⟨[], piece, rfl, by simp⟩
  | case3 piece rest hrest ih =>
    obtain ⟨front, last, heq, hfront⟩ := ih (by rintro rfl; exact hrest rfl)
    exact ⟨(.data, piece) :: front, last, by rw [heq, List.cons_append],
      List.forall_mem_cons.mpr ⟨rfl, hfront⟩⟩

/-- A reply is zero or more pieces with more to come and one that ends it. -/
theorem replyPieces_shape (declared : UInt64) (reply : List UInt8) :
    ∃ front last, replyPieces declared reply = front ++ [(.dataEnd, last)] ∧
      ∀ p ∈ front, p.1 = .data := by
  unfold replyPieces
  split_ifs with hreply
  · exact ⟨[], [], rfl, by simp⟩
  · exact markEnd_shape (by rw [chunks_cons hreply (chunkSize_pos _)]; exact List.cons_ne_nil _ _)

theorem replyPieces_flatten (declared : UInt64) (reply : List UInt8) :
    ((replyPieces declared reply).map Prod.snd).flatten = reply := by
  unfold replyPieces
  split_ifs with hreply
  · rw [hreply]
    rfl
  · rw [map_snd_markEnd, chunks_flatten (chunkSize_pos _)]

theorem replyPieces_length_le {piece : MessageType × List UInt8}
    (h : piece ∈ replyPieces declared reply) : piece.2.length ≤ chunkSize declared := by
  unfold replyPieces at h
  split_ifs at h
  · rw [List.mem_singleton.mp h]
    exact Nat.zero_le _
  · have hmem : piece.2 ∈ chunks (chunkSize declared) reply := by
      rw [← map_snd_markEnd (chunks (chunkSize declared) reply)]
      exact List.mem_map_of_mem h
    exact length_le_of_mem_chunks hmem

/-- The first piece is as large as it may be. -/
theorem replyPieces_head (declared : UInt64) (reply : List UInt8) :
    ∃ typ rest, replyPieces declared reply = (typ, reply.take (chunkSize declared)) :: rest := by
  unfold replyPieces
  split_ifs with hreply
  · exact ⟨.dataEnd, [], by rw [hreply, List.take_nil]⟩
  · rw [chunks_cons hreply (chunkSize_pos _)]
    cases chunks (chunkSize declared) (reply.drop (chunkSize declared)) with
    | nil => exact ⟨.dataEnd, [], rfl⟩
    | cons next rest => exact ⟨.data, markEnd (next :: rest), rfl⟩

/-- In synchronized mode every message of a reply carries the request's id. -/
theorem writePieces_synchronized {entry : SessionEntry} (h : entry.overlapped = false)
    (pieces : List (MessageType × List UInt8)) :
    entry.writePieces requestId pieces = (pieces.map fun p => ⟨p.1, 0, requestId, p.2⟩, entry) := by
  induction pieces with
  | nil => rfl
  | cons piece rest ih =>
    have hone : entry.writePiece requestId piece = (⟨piece.1, 0, requestId, piece.2⟩, entry) := by
      simp [SessionEntry.writePiece, SessionEntry.responseMessageId, h]
    simp only [SessionEntry.writePieces, hone, ih, List.map_cons]

theorem writeTo_length (message : Message) :
    message.writeTo.length = Message.headerSize + message.payload.length := by
  simp only [Message.writeTo, writeHeader, Message.headerSize, List.length_append, List.length_cons,
    List.length_nil, toBeBytes_length]

namespace Client

variable {stream : Stream} {ending : StreamEnd} {rest out : List UInt8} {message : Message}

theorem queryLoop_of_ok {after : Stream} (h : readMsg stream = .ok (message, after)) :
    queryLoop requestId out stream = match queryTurn requestId out message with
      | .reads out => queryLoop requestId out after
      | .returns out => .ok (out, after)
      | .fails e => .error e := by
  rw [queryLoop]
  split
  · rename_i herror
    rw [h] at herror
    cases herror
  · rename_i hok
    rw [h] at hok
    obtain ⟨rfl, rfl⟩ := Prod.mk.inj (Except.ok.inj hok)
    rfl

theorem queryLoop_of_error {e : QueryError} (h : readMsg stream = .error e) :
    queryLoop requestId out stream = .error e := by
  rw [queryLoop]
  split
  · rename_i herror
    rw [h] at herror
    rw [Except.error.inj herror]
  · rename_i hok
    rw [h] at hok
    cases hok

/-- A message of a reply that the client has room for. -/
structure Acceptable (requestId : UInt32) (message : Message) : Prop where
  messageId : message.messageParameter = requestId
  fits : message.payload.length ≤ maxMessageSize

theorem readMsg_writeTo (hfits : message.payload.length ≤ maxMessageSize)
    (htype : message.messageType = .data ∨ message.messageType = .dataEnd) :
    readMsg ⟨message.writeTo ++ rest, ending⟩ = .ok (message, ⟨rest, ending⟩) := by
  have hlen : message.payload.length < 2 ^ 64 := by
    simp only [maxMessageSize] at hfits
    omega
  have hvendor : ∀ code, message.messageType = .vendorSpecific code → 128 ≤ code.toNat := by
    intro code hcode
    rcases htype with h | h <;> rw [h] at hcode <;> cases hcode
  rw [readMsg, readFrom_writeTo hlen hfits hvendor]

theorem queryLoop_data (h : Acceptable requestId message) (htype : message.messageType = .data) :
    queryLoop requestId out ⟨message.writeTo ++ rest, ending⟩ =
      queryLoop requestId (out ++ message.payload) ⟨rest, ending⟩ := by
  rw [queryLoop_of_ok (readMsg_writeTo h.fits (.inl htype))]
  simp [queryTurn, htype, h.messageId]

theorem queryLoop_dataEnd (h : Acceptable requestId message)
    (htype : message.messageType = .dataEnd) :
    queryLoop requestId out ⟨message.writeTo ++ rest, ending⟩ =
      .ok (out ++ message.payload, ⟨rest, ending⟩) := by
  rw [queryLoop_of_ok (readMsg_writeTo h.fits (.inr htype))]
  simp [queryTurn, htype, h.messageId]

/-- The loop over the Data messages of a reply collects their payloads. -/
theorem queryLoop_front (h : ∀ m ∈ messages, Acceptable requestId m ∧ m.messageType = .data) :
    queryLoop requestId out ⟨(messages.map Message.writeTo).flatten ++ rest, ending⟩ =
      queryLoop requestId (out ++ (messages.map Message.payload).flatten) ⟨rest, ending⟩ := by
  induction messages generalizing out with
  | nil => simp
  | cons message messages ih =>
    obtain ⟨⟨hmessage, htype⟩, hrest⟩ := List.forall_mem_cons.mp h
    simp only [List.map_cons, List.flatten_cons, List.append_assoc]
    rw [queryLoop_data hmessage htype, ih hrest, List.append_assoc]

theorem queryLoop_reply {last : Message}
    (hfront : ∀ m ∈ messages, Acceptable requestId m ∧ m.messageType = .data)
    (hlast : Acceptable requestId last) (htype : last.messageType = .dataEnd) :
    queryLoop requestId []
        ⟨((messages ++ [last]).map Message.writeTo).flatten ++ rest, ending⟩ =
      .ok (((messages ++ [last]).map Message.payload).flatten, ⟨rest, ending⟩) := by
  simp only [List.map_append, List.map_cons, List.map_nil, List.flatten_append, List.flatten_cons,
    List.flatten_nil, List.append_nil, List.append_assoc]
  rw [queryLoop_front hfront, queryLoop_dataEnd hlast htype, List.nil_append]

/-- A message over the client's own limit fails the query. -/
theorem queryLoop_tooLarge (hlen : message.payload.length < 2 ^ 64)
    (h : maxMessageSize < message.payload.length) :
    queryLoop requestId out ⟨message.writeTo ++ rest, ending⟩ =
      .error (.protocol (.nonFatal .messageTooLarge "message payload too large")) := by
  let frame : Frame := ⟨message.messageType.getMessageType, message.controlCode,
    message.messageParameter, message.payload, hlen⟩
  have hread : Message.readFrom maxMessageSize true ⟨frame.encode ++ rest, ending⟩ = _ :=
    readFrom_tooLarge h
  rw [Frame.incoming, if_pos h] at hread
  have hwrite : message.writeTo = frame.encode := rfl
  exact queryLoop_of_error (by rw [readMsg, hwrite, hread])

end Client

/-- The messages of a reply in synchronized mode. -/
def synchronizedReply (declared : UInt64) (requestId : UInt32) (reply : List UInt8) : List Message :=
  (replyPieces declared reply).map fun p => ⟨p.1, 0, requestId, p.2⟩

theorem writeResponse_synchronized {entry : SessionEntry} (h : entry.overlapped = false) :
    entry.writeResponse requestId reply =
      (synchronizedReply entry.clientMaxMessageSize requestId reply, entry) :=
  writePieces_synchronized h _

theorem synchronizedReply_payloads (declared : UInt64) (requestId : UInt32) (reply : List UInt8) :
    ((synchronizedReply declared requestId reply).map Message.payload).flatten = reply := by
  rw [synchronizedReply, List.map_map]
  exact replyPieces_flatten declared reply

theorem synchronizedReply_mem {message : Message}
    (h : message ∈ synchronizedReply declared requestId reply) :
    message.messageParameter = requestId ∧ message.payload.length ≤ chunkSize declared := by
  obtain ⟨piece, hpiece, rfl⟩ := List.mem_map.mp h
  exact ⟨rfl, replyPieces_length_le hpiece⟩

theorem synchronizedReply_shape (declared : UInt64) (requestId : UInt32) (reply : List UInt8) :
    ∃ front last, synchronizedReply declared requestId reply = front ++ [last] ∧
      (∀ m ∈ front, m.messageType = .data) ∧ last.messageType = .dataEnd := by
  obtain ⟨front, last, heq, hfront⟩ := replyPieces_shape declared reply
  refine ⟨front.map fun p => ⟨p.1, 0, requestId, p.2⟩, ⟨.dataEnd, 0, requestId, last⟩, ?_, ?_, rfl⟩
  · rw [synchronizedReply, heq, List.map_append]
    rfl
  · intro m hm
    obtain ⟨piece, hpiece, rfl⟩ := List.mem_map.mp hm
    exact hfront piece hpiece

/-- A payload is part of the reply. -/
theorem payload_length_le {message : Message}
    (h : message ∈ synchronizedReply declared requestId reply) :
    message.payload.length ≤ reply.length := by
  rw [← synchronizedReply_payloads declared requestId reply]
  exact List.Sublist.length_le (List.sublist_flatten_of_mem (List.mem_map_of_mem h))

/-- The query that reads a reply's messages off its stream, whatever comes after. -/
theorem queryLoop_synchronizedReply (declared : UInt64) (requestId : UInt32)
    (reply rest : List UInt8) (ending : StreamEnd) :
    Client.queryLoop requestId []
        ⟨((synchronizedReply declared requestId reply).map Message.writeTo).flatten ++ rest, ending⟩ =
      if min (chunkSize declared) reply.length ≤ Client.maxMessageSize then
        .ok (reply, ⟨rest, ending⟩)
      else .error (.protocol (.nonFatal .messageTooLarge "message payload too large")) := by
  split_ifs with hfits
  · obtain ⟨front, last, heq, hfront, hlast⟩ := synchronizedReply_shape declared requestId reply
    have hall : ∀ m ∈ front ++ [last], Client.Acceptable requestId m := by
      intro m hm
      rw [← heq] at hm
      obtain ⟨hid, hlen⟩ := synchronizedReply_mem hm
      exact ⟨hid, Nat.le_trans (Nat.le_min.mpr ⟨hlen, payload_length_le hm⟩) hfits⟩
    have hpayloads := synchronizedReply_payloads declared requestId reply
    rw [heq] at hpayloads ⊢
    rw [Client.queryLoop_reply (fun m hm => ⟨hall m (List.mem_append_left _ hm), hfront m hm⟩)
      (hall last (by simp)) hlast, hpayloads]
  · obtain ⟨typ, pieces, heq⟩ := replyPieces_head declared reply
    have hfirst : (reply.take (chunkSize declared)).length = min (chunkSize declared) reply.length :=
      List.length_take
    have hbound : chunkSize declared < 2 ^ 64 := by
      have := declared.toNat_lt
      simp only [chunkSize, minChunk]
      omega
    rw [synchronizedReply, heq]
    simp only [List.map_cons, List.flatten_cons, List.append_assoc]
    exact Client.queryLoop_tooLarge (by rw [hfirst]; omega) (by rw [hfirst]; omega)

/-- A reply split for a client that declared this maximum in synchronized mode: how its messages
look, that none is larger than declared, and what the query that reads them returns. -/
theorem writeResponse_split (entry : SessionEntry) (declared : UInt64) (requestId : UInt32)
    (reply rest : List UInt8) (ending : StreamEnd) :
    let sent := ({ entry with clientMaxMessageSize := declared, overlapped := false }.writeResponse
      requestId reply).1
    (∃ front last, sent = front ++ [last] ∧ (∀ m ∈ front, m.messageType = .data) ∧
      last.messageType = .dataEnd) ∧
    (∀ m ∈ sent, m.messageParameter = requestId ∧
      m.payload.length ≤ max (declared.toNat - 16) 256) ∧
    (sent.map Message.payload).flatten = reply ∧
    (reply = [] → sent = [⟨.dataEnd, 0, requestId, []⟩]) ∧
    (272 ≤ declared.toNat → ∀ m ∈ sent, m.writeTo.length ≤ declared.toNat) ∧
    Client.queryLoop requestId [] ⟨(sent.map Message.writeTo).flatten ++ rest, ending⟩ =
      if min (max (declared.toNat - 16) 256) reply.length ≤ 16 * 1024 * 1024 then
        .ok (reply, ⟨rest, ending⟩)
      else .error (.protocol (.nonFatal .messageTooLarge "message payload too large")) := by
  intro sent
  have hsent : sent = synchronizedReply declared requestId reply :=
    congrArg Prod.fst (writeResponse_synchronized rfl)
  rw [hsent]
  refine ⟨synchronizedReply_shape .., fun m hm => synchronizedReply_mem hm,
    synchronizedReply_payloads .., ?_, ?_, queryLoop_synchronizedReply ..⟩
  · rintro rfl
    rfl
  · intro hdeclared m hm
    have hlen := (synchronizedReply_mem hm).2
    rw [writeTo_length]
    simp only [chunkSize, minChunk, Message.headerSize] at hlen ⊢
    omega

/-- A client that declares more than it takes may be sent more than it takes. -/
theorem declared_beyond_client_limit :
    ∃ (entry : SessionEntry) (requestId : UInt32) (reply : List UInt8), entry.overlapped = false ∧
      (Client.queryLoop requestId [] ⟨((entry.writeResponse requestId reply).1.map
        Message.writeTo).flatten, .eof⟩).toOption.map Prod.fst ≠ some reply := by
  let entry : SessionEntry := { clientMaxMessageSize := 2 ^ 25, overlapped := false }
  let reply : List UInt8 := List.replicate (2 ^ 24 + 1) 0
  refine ⟨entry, firstMessageId, reply, rfl, ?_⟩
  have hquery := queryLoop_synchronizedReply entry.clientMaxMessageSize firstMessageId reply [] .eof
  have hlen : reply.length = 2 ^ 24 + 1 := List.length_replicate
  have hsize : chunkSize entry.clientMaxMessageSize = 2 ^ 25 - 16 := by decide +kernel
  rw [List.append_nil, if_neg (by rw [hlen, hsize]; decide +kernel)] at hquery
  rw [writeResponse_synchronized rfl, hquery]
  nofun

end
end Ugpibd.Hislip
