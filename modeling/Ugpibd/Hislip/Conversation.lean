import Ugpibd.Hislip.MessageIds

/-! A client and the server on one connection that stays up. The client sends a message for each
call and reads only for a query; the server answers whatever its instrument makes it answer. -/
namespace Ugpibd.Hislip
open Library SyncChannel

/-- A call that puts a message on the synchronous channel. -/
inductive ClientCall
  | write
  | query
  | trigger
  deriving DecidableEq, Repr

def ClientCall.messageType : ClientCall → MessageType
  | .write | .query => .dataEnd
  | .trigger => .trigger

/-- A query that waits for its reply, with what it has of it. -/
structure Query where
  id : UInt32
  out : List UInt8 := []
  deriving DecidableEq, Repr

/-- The number of messages the synchronous channel has noted. -/
def notedCount : List SessionEvent → Nat
  | [] => 0
  | .noted _ :: older => notedCount older + 1
  | _ :: older => notedCount older

/-- What was written on the synchronous channel, in order, each with the number of the message
being served. -/
def written : List SessionEvent → List (Nat × Message)
  | [] => []
  | .sent message :: older => written older ++ [(notedCount older, message)]
  | .wrote message :: older => written older ++ [(notedCount older, message)]
  | _ :: older => written older

/-- What was written while the `n`th message was being served. -/
def logOf (n : Nat) (log : List (Nat × Message)) : List Message :=
  (log.filter (·.1 = n)).map Prod.snd

/-- Both ends. `overrun` says that the server has met a message over its limit: what it takes for
messages after that is not modelled. The calls, in order, and the results of the queries by the
number of the call are not part of the program. -/
structure Conversation where
  server : SyncChannel
  messageId : UInt32 := firstMessageId
  onTheWay : List Message := []
  query : Option Query := none
  readCount : Nat := 0
  overrun : Bool := false
  calls : List ClientCall := []
  results : List (Nat × Except Client.QueryError (List UInt8)) := []

/-- The client's calls, the server reading the next message, the query reading the next one of the
server's, and what the server does by itself. -/
inductive ConversationAction
  | write (cmd : List UInt8)
  | query (cmd : List UInt8)
  | trigger
  | clear
  | status (live : Except String UInt8)
  | deliver
  | read
  | server (a : SyncAction)

/-- The steps of the server that are neither the client's nor a lost connection. -/
def SyncAction.own : SyncAction → Bool
  | .executed _ | .beginReply | .sendNext | .replied | .triggered | .written
  | .forwarderPolled _ => true
  | _ => false

def SyncAction.receives : SyncAction → Bool
  | .receive _ => true
  | _ => false

namespace Conversation

/-- A client that has connected has declared its maximum message size. -/
def start (config : SessionConfig) : Conversation where
  server := { SyncChannel.start config with
    entry := { (SyncChannel.start config).entry with
      clientMaxMessageSize := UInt64.ofNat Client.maxMessageSize } }

def log (s : Conversation) : List (Nat × Message) := written s.server.history

/-- What the client has not read yet. -/
def unread (s : Conversation) : List Message := (s.log.drop s.readCount).map Prod.snd

/-- One message with the next id. The client never marks one RMT-delivered. -/
def send (s : Conversation) (call : ClientCall) (payload : List UInt8) : Conversation :=
  { s with
    messageId := s.messageId + 2
    onTheWay := s.onTheWay ++ [⟨call.messageType, 0, s.messageId, payload⟩]
    calls := s.calls ++ [call] }

/-- The query is over. -/
def finish (s : Conversation) (result : Except Client.QueryError (List UInt8)) : Conversation :=
  { s with
    readCount := s.readCount + 1
    query := none
    results := (s.calls.length, result) :: s.results }

def serverStep (config : SessionConfig) (s : Conversation) (a : SyncAction) : Option Conversation :=
  (SyncChannel.step config s.server a).map fun server => { s with server }

def step (config : SessionConfig) (s : Conversation) : ConversationAction → Option Conversation
  | .write cmd => match s.query with
    | none => some (s.send .write cmd)
    | some _ => none
  | .query cmd => match s.query with
    | none => some { s.send .query cmd with query := some { id := s.messageId } }
    | some _ => none
  | .trigger => match s.query with
    | none => some (s.send .trigger [])
    | some _ => none
  | .clear => match s.query with
    | none => s.serverStep config .asyncDeviceClear
    | some _ => none
  | .status live => match s.query with
    -- the id of the latest message the client has sent
    | none => s.serverStep config (.statusQuery live (s.messageId - 2))
    | some _ => none
  | .deliver => match s.overrun, s.onTheWay with
    | false, msg :: rest =>
      if config.maxMessageSize.toNat < msg.payload.length then
        { s with onTheWay := rest, overrun := true }.serverStep config
          (.readError (.nonFatal .messageTooLarge "message payload too large"))
      else { s with onTheWay := rest }.serverStep config (.receive msg)
    | _, _ => none
  | .read => match s.query, s.unread with
    | some query, msg :: _ => match Client.queryTurn query.id query.out msg with
      | .reads out => some { s with
          readCount := s.readCount + 1
          query := some { query with out } }
      | .returns out => some (s.finish (.ok out))
      | .fails e => some (s.finish (.error e))
    | _, _ => none
  | .server a => if a.own then s.serverStep config a else none

end Conversation

/-- An event that is neither a message of the client's nor a completed clear. -/
def SessionEvent.own : SessionEvent → Bool
  | .noted _ | .cleared _ => false
  | _ => true

/-- No clear was completed, and no message marked RMT-delivered. -/
def SessionEvent.plain : SessionEvent → Bool
  | .noted msg => !firstBit msg.controlCode
  | .cleared _ => false
  | _ => true

section
variable {config : SessionConfig} {t t' : SyncChannel} {a : SyncAction}
  {new history : List SessionEvent}

theorem plain_of_own {e : SessionEvent} (h : e.own = true) : e.plain = true := by
  cases e <;> first | rfl | cases h

theorem notedCount_own (hnew : ∀ e ∈ new, e.own = true) :
    notedCount (new ++ history) = notedCount history := by
  induction new with
  | nil => rfl
  | cons e new ih =>
    obtain ⟨he, hrest⟩ := List.forall_mem_cons.mp hnew
    cases e <;> first | exact ih hrest | cases he

theorem latestId_own (hnew : ∀ e ∈ new, e.own = true) :
    latestId (new ++ history) = latestId history := by
  induction new with
  | nil => rfl
  | cons e new ih =>
    obtain ⟨he, hrest⟩ := List.forall_mem_cons.mp hnew
    cases e <;> first | exact ih hrest | cases he

/-- In a plain history the mode is the first one, and a reply begun stays begun. -/
theorem modeAfter_plain {initial : Bool} (h : ∀ e ∈ history, e.plain = true) :
    modeAfter initial history = initial := by
  induction history with
  | nil => rfl
  | cons e history ih =>
    obtain ⟨he, hhistory⟩ := List.forall_mem_cons.mp h
    cases e <;> first | exact ih hhistory | cases he

theorem replyBegun_plain (h : ∀ e ∈ history, e.plain = true) :
    replyBegun history = true ↔ .begun ∈ history := by
  induction history with
  | nil => simp [replyBegun]
  | cons e history ih =>
    obtain ⟨he, hhistory⟩ := List.forall_mem_cons.mp h
    have hold : replyBegun history = true ↔ .begun ∈ history := ih hhistory
    cases e with
    | begun => simp [replyBegun]
    | cleared overlapped => cases he
    | noted msg =>
      have hbit : firstBit msg.controlCode = false := by simpa [SessionEvent.plain] using he
      simp [replyBegun, hbit, hold]
    | _ => simp [replyBegun, hold]

theorem own_nil (history : List SessionEvent) :
    ∃ new, history = new ++ history ∧ ∀ e ∈ new, e.own = true := ⟨[], rfl, by simp⟩

theorem own_raiseServiceRequest (serviceRequest : Option UInt8) :
    ∃ new, (t.raiseServiceRequest serviceRequest).history = new ++ t.history ∧
      ∀ e ∈ new, e.own = true := by
  cases serviceRequest with
  | none => exact own_nil _
  | some stb => exact ⟨[.putBy stb], rfl, by simp [SessionEvent.own]⟩

theorem own_executed (requestId : UInt32) (result : Except String Execution) :
    ∃ new, (t.executed requestId result).history = new ++ t.history ∧
      ∀ e ∈ new, e.own = true := by
  unfold SyncChannel.executed
  split
  · exact own_nil _
  · exact own_raiseServiceRequest _
  · exact ⟨[.begun], rfl, by simp [SessionEvent.own]⟩

theorem own_notePolled (polled : Option UInt8) :
    ∃ new, (t.notePolled polled).history = new ++ t.history ∧ ∀ e ∈ new, e.own = true := by
  cases polled with
  | none => exact own_nil _
  | some stb => exact ⟨[.polled stb], rfl, by simp [SessionEvent.own]⟩

theorem own_append {history' history'' : List SessionEvent}
    (h : ∃ new, history'' = new ++ history' ∧ ∀ e ∈ new, e.own = true)
    (h' : ∃ new, history' = new ++ history ∧ ∀ e ∈ new, e.own = true) :
    ∃ new, history'' = new ++ history ∧ ∀ e ∈ new, e.own = true := by
  obtain ⟨new, rfl, hnew⟩ := h
  obtain ⟨new', rfl, hnew'⟩ := h'
  refine ⟨new ++ new', (List.append_assoc ..).symm, fun e he => ?_⟩
  rcases List.mem_append.mp he with he | he
  · exact hnew e he
  · exact hnew' e he

/-- Whatever is not the reading of a message adds only events of the server's own. -/
theorem step_own (ha : a.receives = false) (hs : SyncChannel.step config t a = some t') :
    ∃ new, t'.history = new ++ t.history ∧ ∀ e ∈ new, e.own = true := by
  cases SyncChannel.step_effect hs with
  | receive => cases ha
  | executed => exact own_append (own_executed _ _) (own_notePolled _)
  | sendNext => exact ⟨[.sent _], rfl, by simp [SessionEvent.own]⟩
  | replied => exact own_raiseServiceRequest _
  | written => exact ⟨[.wrote _], rfl, by simp [SessionEvent.own]⟩
  | forwarderPolled stb => exact ⟨[.putBy stb, .polled stb], rfl, by simp [SessionEvent.own]⟩
  | statusQuery => exact ⟨[.answered _ _ _], rfl, by simp [SessionEvent.own]⟩
  | _ => exact own_nil _

@[simp] theorem noticeClear_history : t.noticeClear.history = t.history := by
  unfold SyncChannel.noticeClear
  split_ifs <;> rfl

/-- A message that one of the client's calls sends. -/
structure SentBy (call : ClientCall) (id : UInt32) (msg : Message) : Prop where
  messageType : msg.messageType = call.messageType
  controlCode : msg.controlCode = 0
  messageId : msg.messageParameter = id

theorem SentBy.noted {call : ClientCall} {id : UInt32} {msg : Message} (h : SentBy call id msg) :
    (t.noticeClear.receive config msg).history = .noted msg :: t.history := by
  unfold SyncChannel.receive
  cases call <;> simp [h.messageType, ClientCall.messageType, SyncChannel.note]

theorem SentBy.plain {call : ClientCall} {id : UInt32} {msg : Message} (h : SentBy call id msg) :
    (SessionEvent.noted msg).plain = true := by
  simp [SessionEvent.plain, h.controlCode, firstBit]

end

/-- The id of the last of `n` messages. -/
def lastId : Nat → Option UInt32
  | 0 => none
  | n + 1 => some (serverId n)

namespace Conversation

/-- The server has taken the client's messages in order, and the rest are on their way. -/
structure InOrder (s : Conversation) : Prop where
  received : notedCount s.server.history + s.onTheWay.length = s.calls.length
  latest : latestId s.server.history = lastId (notedCount s.server.history)
  onTheWay : ∀ k msg, s.onTheWay[k]? = some msg → ∃ call,
    s.calls[notedCount s.server.history + k]? = some call ∧
    SentBy call (serverId (notedCount s.server.history + k)) msg

/-- What holds of a client and the server in every run. -/
structure Sound (s : Conversation) : Prop where
  follows : Follows false s.server
  plain : ∀ e ∈ s.server.history, e.plain = true
  messageId : s.messageId = serverId s.calls.length
  inOrder : s.overrun = false → s.InOrder

section
variable {config : SessionConfig} {s s' : Conversation} {a : ConversationAction}

theorem sound_start (hmode : config.modes.prefersOverlapped = false) : (start config).Sound where
  follows := by
    have h := follows_start config
    rw [hmode] at h
    exact ⟨h.tracks.declared _, h.request⟩
  plain := nofun
  messageId := rfl
  inOrder := fun _ => ⟨rfl, rfl, nofun⟩

/-- A message is sent after the ones that are on their way. -/
theorem Sound.send (h : s.Sound) (call : ClientCall) (payload : List UInt8) :
    (s.send call payload).Sound where
  follows := h.follows
  plain := h.plain
  messageId := by
    change s.messageId + 2 = serverId (s.calls ++ [call]).length
    rw [List.length_append, List.length_singleton, serverId_succ, h.messageId]
  inOrder := by
    intro hover
    obtain ⟨hreceived, hlatest, honTheWay⟩ := h.inOrder hover
    refine ⟨?_, hlatest, ?_⟩
    · change notedCount s.server.history + (s.onTheWay ++ [_]).length = (s.calls ++ [call]).length
      rw [List.length_append, List.length_append, List.length_singleton, List.length_singleton]
      omega
    · intro k msg hmsg
      change (s.onTheWay ++ [_])[k]? = some msg at hmsg
      change ∃ call', (s.calls ++ [call])[notedCount s.server.history + k]? = some call' ∧ _
      rcases Nat.lt_or_ge k s.onTheWay.length with hk | hk
      · rw [List.getElem?_append_left hk] at hmsg
        obtain ⟨call', hcall, hsent⟩ := honTheWay k msg hmsg
        exact ⟨call', by rw [List.getElem?_append_left (by omega)]; exact hcall, hsent⟩
      · have hlen : k < (s.onTheWay ++ [_]).length := (List.getElem?_eq_some_iff.mp hmsg).1
        obtain rfl : k = s.onTheWay.length := by
          rw [List.length_append, List.length_singleton] at hlen
          omega
        rw [List.getElem?_concat_length] at hmsg
        refine ⟨call, by rw [hreceived, List.getElem?_concat_length], ?_⟩
        change SentBy call (serverId (notedCount s.server.history + s.onTheWay.length)) msg
        rw [hreceived, ← h.messageId]
        obtain rfl := Option.some.inj hmsg
        exact ⟨rfl, rfl, rfl⟩

/-- A step of the server's that reads no message. -/
theorem Sound.serverStep (h : s.Sound) {b : SyncAction} (hb : b.receives = false)
    {server : SyncChannel} (hs : SyncChannel.step config s.server b = some server) :
    { s with server }.Sound := by
  obtain ⟨new, hhistory, hnew⟩ := step_own hb hs
  refine ⟨h.follows.step hs, ?_, h.messageId, fun hover => ?_⟩
  · intro e he
    change e ∈ server.history at he
    rw [hhistory] at he
    rcases List.mem_append.mp he with he | he
    · exact plain_of_own (hnew e he)
    · exact h.plain e he
  · obtain ⟨hreceived, hlatest, honTheWay⟩ := h.inOrder hover
    have hcount : notedCount server.history = notedCount s.server.history := by
      rw [hhistory, notedCount_own hnew]
    have hid : latestId server.history = latestId s.server.history := by
      rw [hhistory, latestId_own hnew]
    exact ⟨by rw [hcount]; exact hreceived, by rw [hid, hcount]; exact hlatest,
      by rw [hcount]; exact honTheWay⟩

/-- The server notes the next message. -/
theorem Sound.deliver (h : s.Sound) {msg : Message} {rest : List Message} {server : SyncChannel}
    (hover : s.overrun = false) (honTheWay : s.onTheWay = msg :: rest)
    (hs : SyncChannel.step config s.server (.receive msg) = some server) :
    { s with server, onTheWay := rest }.Sound := by
  obtain ⟨hreceived, hlatest, hall⟩ := h.inOrder hover
  rw [honTheWay] at hreceived hall
  obtain ⟨call, hcall, hsent⟩ := hall 0 msg rfl
  have hhistory : server.history = .noted msg :: s.server.history := by
    cases SyncChannel.step_effect hs
    exact hsent.noted
  have hcount : notedCount server.history = notedCount s.server.history + 1 := by
    rw [hhistory]
    rfl
  refine ⟨h.follows.step hs, ?_, h.messageId, fun _ => ⟨?_, ?_, ?_⟩⟩
  · change ∀ e ∈ server.history, _
    rw [hhistory]
    exact List.forall_mem_cons.mpr ⟨hsent.plain, h.plain⟩
  · change notedCount server.history + rest.length = s.calls.length
    rw [List.length_cons] at hreceived
    omega
  · change latestId server.history = lastId (notedCount server.history)
    rw [hcount, hhistory]
    exact congrArg some hsent.messageId
  · intro k next hnext
    change ∃ call, s.calls[notedCount server.history + k]? = some call ∧
      SentBy call (serverId (notedCount server.history + k)) next
    have heq : notedCount server.history + k = notedCount s.server.history + (k + 1) := by omega
    rw [heq]
    exact hall (k + 1) next hnext

/-- What the client has read makes no difference to the messages it has sent. -/
theorem Sound.readOn (h : s.Sound) (query : Option Query) (readCount : Nat)
    (results : List (Nat × Except Client.QueryError (List UInt8))) :
    { s with query, readCount, results }.Sound :=
  ⟨h.follows, h.plain, h.messageId, fun hover => ⟨(h.inOrder hover).received,
    (h.inOrder hover).latest, (h.inOrder hover).onTheWay⟩⟩

theorem serverStep_eq_some {b : SyncAction} (h : s.serverStep config b = some s') :
    ∃ server, SyncChannel.step config s.server b = some server ∧ s' = { s with server } := by
  obtain ⟨server, hs, rfl⟩ := Option.map_eq_some_iff.mp h
  exact ⟨server, hs, rfl⟩

theorem Sound.step (h : s.Sound) (hs : s.step config a = some s') : s'.Sound := by
  cases a <;> simp only [Conversation.step] at hs
  case write cmd => split at hs <;> cases hs; exact h.send .write cmd
  case query cmd =>
    split at hs <;> cases hs
    exact (h.send .query cmd).readOn _ _ _
  case trigger => split at hs <;> cases hs; exact h.send .trigger []
  case clear =>
    split at hs
    · obtain ⟨server, hserver, rfl⟩ := serverStep_eq_some hs
      exact h.serverStep rfl hserver
    · cases hs
  case status live =>
    split at hs
    · obtain ⟨server, hserver, rfl⟩ := serverStep_eq_some hs
      exact h.serverStep rfl hserver
    · cases hs
  case deliver =>
    split at hs
    · rename_i msg rest hover honTheWay
      split_ifs at hs
      · obtain ⟨server, hserver, rfl⟩ := serverStep_eq_some hs
        obtain ⟨hfollows, hplain, hid, -⟩ := h.serverStep rfl hserver
        exact ⟨hfollows, hplain, hid, by simp⟩
      · obtain ⟨server, hserver, rfl⟩ := serverStep_eq_some hs
        exact h.deliver hover honTheWay hserver
    · cases hs
  case read =>
    split at hs
    · split at hs <;> cases hs <;> exact h.readOn _ _ _
    · cases hs
  case server b =>
    split_ifs at hs with hown
    obtain ⟨server, hserver, rfl⟩ := serverStep_eq_some hs
    exact h.serverStep (by cases b <;> first | rfl | cases hown) hserver

theorem reach_sound {guard : Conversation → ConversationAction → Prop}
    (hmode : config.modes.prefersOverlapped = false)
    (h : Reach (Conversation.step config) guard (start config) s) : s.Sound :=
  h.invariant (P := Sound) (sound_start hmode) fun _ _ _ hinv _ hs => hinv.step hs

end
end Conversation
end Ugpibd.Hislip
