import Ugpibd.Hislip.ConversationOrder

/-! What a query returns. The client takes the next message on the channel for its answer, so every
answer has to be the query's own. -/
namespace Ugpibd.Hislip
open Library SyncChannel Client

namespace Conversation

section
variable {config : SessionConfig} {s s' : Conversation}

theorem written_raiseServiceRequest (t : SyncChannel) (serviceRequest : Option UInt8) :
    written (t.raiseServiceRequest serviceRequest).history = written t.history := by
  cases serviceRequest <;> rfl

theorem written_notePolled (t : SyncChannel) (polled : Option UInt8) :
    written (t.notePolled polled).history = written t.history := by
  cases polled <;> rfl

theorem written_executed (t : SyncChannel) (requestId : UInt32)
    (result : Except String Execution) :
    written (t.executed requestId result).history = written t.history := by
  unfold SyncChannel.executed
  split
  · rfl
  · exact written_raiseServiceRequest _ _
  · rfl

@[simp] theorem task_raiseServiceRequest (t : SyncChannel) (serviceRequest : Option UInt8) :
    (t.raiseServiceRequest serviceRequest).task = t.task := by
  cases serviceRequest <;> rfl

theorem task_executed_silent (t : SyncChannel) (requestId : UInt32)
    {result : Except String Execution} (h : speaks result = false) :
    (t.executed requestId result).task = .reading := by
  unfold SyncChannel.executed
  split
  · cases h
  · exact task_raiseServiceRequest _ _
  · cases h

/-- An execution that speaks leaves an error to be sent, or a reply to be split. -/
theorem task_executed_speaks (t : SyncChannel) (requestId : UInt32)
    {result : Except String Execution} (h : speaks result = true) :
    (t.executed requestId result).task.toSend = none ∨
    ∃ message : Message, message.messageType = .error ∧
      (t.executed requestId result).task.toSend = some [message] := by
  unfold SyncChannel.executed
  split
  · exact .inr ⟨_, rfl, rfl⟩
  · cases h
  · exact .inl rfl

theorem answering_executed {query : Query} {t : SyncChannel} {requestId : UInt32}
    {result : Except String Execution}
    (hlog : written (t.executed requestId result).history = s.log)
    (hread : s.readCount = s.log.length) (hout : query.out = [])
    (hempty : logOf s.calls.length s.log = []) (h : speaks result = true) :
    { s with server := t.executed requestId result }.Answering query := by
  have hlog' : { s with server := t.executed requestId result }.log = s.log := hlog
  have hunread : { s with server := t.executed requestId result }.unread = [] := by
    rw [Conversation.unread, hlog', hread, List.drop_length, List.map_nil]
  rcases task_executed_speaks t requestId h with hnone | ⟨message, herror, hsome⟩
  · refine (answering_iff_of_none hnone).mpr ?_
    rw [hlog']
    exact ⟨hread, hout, hempty⟩
  · refine (answering_iff_of_some hsome).mpr ⟨.error (.device message.payload), ?_, ?_⟩
    · change Answered query.id (logOf s.calls.length _ ++ [message]) _
      rw [hlog', hempty]
      exact .error herror
    · rw [hunread, hout]
      exact Answered.readAll (.error herror)

/-- What receiving the message of a call does to the server. -/
theorem received_quiet (config : SessionConfig) {call : ClientCall} {id : UInt32} {msg : Message}
    (h : SentBy call id msg) (t : SyncChannel) : (t.receive config msg).task.quiet = true := by
  unfold SyncChannel.receive
  cases call <;> simp [h.messageType, ClientCall.messageType, SyncTask.quiet, SyncTask.toSend]

theorem received_query (config : SessionConfig) {id : UInt32} {msg : Message}
    (h : SentBy .query id msg) (t : SyncChannel) : (t.receive config msg).task.toSend = none := by
  unfold SyncChannel.receive
  simp [h.messageType, ClientCall.messageType, SyncTask.toSend]

namespace Orderly

/-- The server takes the next message. -/
theorem deliver (h : Orderly config s) {msg : Message} {rest : List Message} {server : SyncChannel}
    (honTheWay : s.onTheWay = msg :: rest)
    (hs : SyncChannel.step config s.server (.receive msg) = some server) :
    Orderly config { s with server, onTheWay := rest } := by
  have hsound := h.sound.deliver h.overrun honTheWay hs
  have hreceived := h.received
  obtain ⟨-, -, hall⟩ := h.sound.inOrder h.overrun
  rw [honTheWay] at hall
  obtain ⟨call, hcall, hsent⟩ := hall 0 msg rfl
  rw [honTheWay, List.length_cons] at hreceived
  cases SyncChannel.step_effect hs
  have hcount : notedCount (s.server.noticeClear.receive config msg).history =
      notedCount s.server.history + 1 := by
    rw [hsent.noted]
    rfl
  have hlog : written (s.server.noticeClear.receive config msg).history = s.log := by
    rw [hsent.noted]
    rfl
  have hlength := congrArg List.length hlog.symm
  have hquiet := received_quiet config hsent s.server.noticeClear
  refine ⟨hsound, h.overrun, ?_, h.read_le.trans hlength.le, ?_, h.results_kept hlog,
    fun hnone => ⟨(h.idle hnone).read.trans hlength, hquiet⟩, ?_⟩
  · intro m hm
    exact h.fits m (by rw [honTheWay]; exact List.mem_cons_of_mem _ hm)
  · intro k hk
    rcases h.queries k hk with hlast | ⟨hle, -⟩
    · exact .inl hlast
    · refine .inr ⟨by rw [hcount]; omega, fun heq => ?_⟩
      rw [hcount] at heq
      omega
  · intro query hquery
    obtain ⟨hid, hlast, hbefore, -⟩ := h.asking query hquery
    obtain ⟨⟨hread, -⟩, hout⟩ := hbefore (by omega)
    refine ⟨hid, hlast, fun _ => ⟨⟨hread.trans hlength, hquiet⟩, hout⟩, fun heq => ?_⟩
    change notedCount (s.server.noticeClear.receive config msg).history = s.calls.length at heq
    rw [hcount] at heq
    -- the last call is the query, so its command is what the server executes next
    obtain rfl : call = .query := by
      rw [Nat.add_zero, show notedCount s.server.history = s.calls.length - 1 by omega, hlast]
        at hcall
      exact (Option.some.inj hcall).symm
    have hsend := received_query config hsent s.server.noticeClear
    refine (answering_iff_of_none hsend).mpr ⟨hread.trans hlength, hout, ?_⟩
    change logOf s.calls.length (written _) = []
    rw [hlog, ← heq]
    exact logOf_written_next _

/-- A command is executed: for a query the server then has its answer to send, for a write
nothing. -/
theorem executed (h : Orderly config s) {bus : BusAnswers} {server : SyncChannel}
    (hguard : s.answersQueriesOnly config (.server (.executed bus)))
    (hs : SyncChannel.step config s.server (.executed bus) = some server) :
    Orderly config { s with server } := by
  have hsound : { s with server }.Sound := h.sound.serverStep rfl hs
  have hcount : notedCount server.history = notedCount s.server.history := by
    obtain ⟨new, hhistory, hnew⟩ := step_own rfl hs
    rw [hhistory, notedCount_own hnew]
  cases SyncChannel.step_effect hs with
  | executed _ requestId cmd htask =>
    obtain ⟨hpos, hid⟩ := h.request (show s.server.task.request = some requestId by rw [htask]; rfl)
    have hreceived := h.received
    obtain ⟨call, hserved⟩ : ∃ call, s.served = some call :=
      ⟨_, List.getElem?_eq_getElem (by omega)⟩
    have hspeaks := hguard requestId cmd call htask hserved
    have hlog := written_executed (s.server.notePolled (polledByExecute (queryHint cmd) bus)) requestId
      (execute (queryHint cmd) bus)
    rw [written_notePolled] at hlog
    have hsend : s.server.task.toSend = none := by rw [htask]; rfl
    have hexecuting : ∀ {p : Prop}, s.server.task.toSend = some [] → p := by
      intro p hnil
      rw [hsend] at hnil
      cases hnil
    by_cases hcall : call = .query
    · -- the query that is being served is the one the client waits for
      have hlast : notedCount s.server.history = s.calls.length ∧ s.query.isSome := by
        rcases h.queries _ (hcall ▸ hserved) with ⟨hlast, hquery⟩ | ⟨-, hdone⟩
        · exact ⟨by omega, hquery⟩
        · exact hexecuting (hdone (by omega))
      refine h.writesNothing hsound hcount hlog hexecuting ?_ ?_
      · rintro (hnone | hlt)
        · rw [hnone] at hlast
          cases hlast.2
        · omega
      · intro query hquery heq hans
        obtain ⟨hread, hout, hempty⟩ := (answering_iff_of_none hsend).mp hans
        exact answering_executed hlog hread hout hempty (hspeaks.mpr hcall)
    · have hsilent : speaks (execute (queryHint cmd) bus) = false := by
        simpa [hcall] using hspeaks
      have htask' := task_executed_silent
        (s.server.notePolled (polledByExecute (queryHint cmd) bus)) requestId hsilent
      refine h.writesNothing hsound hcount hlog hexecuting (fun _ _ => by rw [htask']; rfl) ?_
      intro query hquery heq _
      have hlast := (h.asking query hquery).last
      rw [← heq] at hlast
      exact absurd (Option.some.inj (hserved.symm.trans hlast)) hcall

/-- A reply is split into the messages that will be sent. -/
theorem beginReply (h : Orderly config s) {server : SyncChannel}
    (hs : SyncChannel.step config s.server .beginReply = some server) :
    Orderly config { s with server } := by
  have hsound : { s with server }.Sound := h.sound.serverStep rfl hs
  cases SyncChannel.step_effect hs with
  | beginReply requestId data serviceRequest htask =>
    obtain ⟨-, hid⟩ := h.request (show s.server.task.request = some requestId by rw [htask]; rfl)
    have hsend : s.server.task.toSend = none := by rw [htask]; rfl
    have hquiet : s.server.task.quiet = false := by rw [htask]; rfl
    refine h.writesNothing hsound rfl rfl (fun hnil => by rw [hsend] at hnil; cases hnil)
      (fun _ hq => by rw [hquiet] at hq; cases hq) fun query hquery heq hans => ?_
    obtain ⟨hread, hout, hempty⟩ := (answering_iff_of_none hsend).mp hans
    have hunread : s.unread = [] := by
      rw [Conversation.unread, hread, List.drop_length, List.map_nil]
    have hreply : Answered query.id ((replyPieces s.server.entry.clientMaxMessageSize data).map
        fun p => ⟨p.1, 0, requestId, p.2⟩) (.ok data) := by
      rw [(h.asking query hquery).id, ← heq, ← hid]
      exact .reply (isReply_replyPieces ..)
    refine ⟨.ok data, ?_, ?_⟩
    · change Answered query.id (logOf s.calls.length s.log ++ _) _
      rw [hempty]
      exact hreply
    · change readAll query.id query.out (s.unread ++ _) = _
      rw [hunread, hout]
      exact hreply.readAll

/-- In synchronized mode the next message of a reply goes out as it was split. -/
theorem sendNext (h : Orderly config s) {server : SyncChannel}
    (hs : SyncChannel.step config s.server .sendNext = some server) :
    Orderly config { s with server } := by
  have hsound : { s with server }.Sound := h.sound.serverStep rfl hs
  have hmode : s.server.entry.overlapped = false := by
    rw [h.sound.follows.tracks.mode, modeAfter_plain h.sound.plain]
  cases SyncChannel.step_effect hs with
  | sendNext requestId piece rest serviceRequest htask =>
    have hpiece : (s.server.entry.writePiece requestId piece).1 =
        ⟨piece.1, 0, requestId, piece.2⟩ := by
      simp [SessionEntry.writePiece, SessionEntry.responseMessageId, hmode]
    exact h.writes hsound rfl rfl (by rw [htask, hpiece]; rfl) rfl

/-- The steps of the server by itself. -/
theorem server (h : Orderly config s) {b : SyncAction} {server : SyncChannel}
    (hown : b.own = true) (hguard : s.answersQueriesOnly config (.server b))
    (hs : SyncChannel.step config s.server b = some server) :
    Orderly config { s with server } := by
  have hsound : { s with server }.Sound :=
    h.sound.serverStep (by cases b <;> first | rfl | cases hown) hs
  cases SyncChannel.step_effect hs with
  | executed => exact h.executed hguard hs
  | beginReply => exact h.beginReply hs
  | sendNext => exact h.sendNext hs
  | replied _ serviceRequest htask =>
    have htask' := task_raiseServiceRequest { s.server with task := .reading } serviceRequest
    refine h.silent hsound ?_ (written_raiseServiceRequest _ _) ?_ ?_
    · cases serviceRequest <;> rfl
    · rw [htask', htask]
      rfl
    · rw [htask', htask]
      rfl
  | triggered htask => exact h.silent hsound rfl rfl (by rw [htask]; rfl) (by rw [htask]; rfl)
  | written message ends htask =>
    exact h.writes hsound rfl rfl (by rw [htask]; rfl) (by cases ends <;> rfl)
  | forwarderPolled => exact h.silent hsound rfl rfl rfl rfl
  | _ => cases hown

/-- A query that has read the last of its answer is over. -/
theorem finish (h : Orderly config s) {result : Except QueryError (List UInt8)}
    (hserving : notedCount s.server.history = s.calls.length)
    (hsend : s.server.task.toSend = some []) (hread : s.readCount + 1 = s.log.length)
    (hlast : s.calls[s.calls.length - 1]? = some .query)
    (hanswered : Answered (serverId (s.calls.length - 1)) (logOf s.calls.length s.log) result) :
    Orderly config (s.finish result) where
  sound := h.sound.readOn _ _ _
  overrun := h.overrun
  fits := h.fits
  read_le := Nat.le_of_eq hread
  queries := by
    intro k hk
    refine .inr ⟨?_, fun _ => hsend⟩
    rcases h.queries k hk with ⟨hlen, -⟩ | ⟨hle, -⟩
    · exact Nat.le_of_eq (hlen.trans hserving.symm)
    · exact hle
  results := by
    intro k result' hmem
    rcases List.mem_cons.mp hmem with heq | hmem
    · obtain ⟨rfl, rfl⟩ := Prod.mk.inj heq
      exact ⟨Nat.le_refl _, nofun, hlast, hanswered⟩
    · obtain ⟨hle, -, hcalled, hold⟩ := h.results k result' hmem
      exact ⟨hle, nofun, hcalled, hold⟩
  idle := by
    intro _
    refine ⟨hread, ?_⟩
    change s.server.task.quiet = true
    cases htask : s.server.task <;> first
      | rfl
      | (rw [htask] at hsend; exact beq_iff_eq.mpr hsend)
  asking := nofun

/-- A query with something to read is being served, and has an answer on its way. -/
theorem answer_of_unread (h : Orderly config s) {query : Query} {message : Message}
    {rest : List Message} (hquery : s.query = some query) (hunread : s.unread = message :: rest) :
    notedCount s.server.history = s.calls.length ∧
    ∃ left result, s.server.task.toSend = some left ∧
      Answered query.id (logOf s.calls.length s.log ++ left) result ∧
      readAll query.id query.out (message :: (rest ++ left)) = some (result, []) := by
  have hasking := h.asking query hquery
  have hreceived := h.received
  have hsome : s.readCount ≠ s.log.length := by
    intro heq
    rw [Conversation.unread, heq, List.drop_length] at hunread
    cases hunread
  have hserving : notedCount s.server.history = s.calls.length := by
    by_contra hne
    exact hsome (hasking.before (by omega)).1.read
  refine ⟨hserving, ?_⟩
  have hans := hasking.answering hserving
  cases hsend : s.server.task.toSend with
  | none => exact absurd ((answering_iff_of_none hsend).mp hans).1 hsome
  | some left =>
    obtain ⟨result, hanswered, hreadAll⟩ := (answering_iff_of_some hsend).mp hans
    rw [hunread, List.cons_append] at hreadAll
    exact ⟨left, result, rfl, hanswered, hreadAll⟩

/-- The query has read a message that is not the last of its answer. -/
theorem readOn (h : Orderly config s) {query : Query} {out : List UInt8} {left : List Message}
    {result : Except QueryError (List UInt8)} (hquery : s.query = some query)
    (hserving : notedCount s.server.history = s.calls.length)
    (hsend : s.server.task.toSend = some left) (hnext : s.readCount + 1 ≤ s.log.length)
    (hanswered : Answered query.id (logOf s.calls.length s.log ++ left) result)
    (hreadAll : readAll query.id out ((s.log.drop (s.readCount + 1)).map Prod.snd ++ left) =
      some (result, [])) :
    Orderly config { s with readCount := s.readCount + 1, query := some { query with out } } where
  sound := h.sound.readOn _ _ _
  overrun := h.overrun
  fits := h.fits
  read_le := hnext
  queries := by
    intro k hk
    rcases h.queries k hk with ⟨hlen, -⟩ | hserved
    · exact .inl ⟨hlen, rfl⟩
    · exact .inr hserved
  results := by
    intro k result' hmem
    obtain ⟨hle, hlt, hcalled, hold⟩ := h.results k result' hmem
    exact ⟨hle, fun _ => hlt (by rw [hquery]; rfl), hcalled, hold⟩
  idle := nofun
  asking := by
    intro query' hquery'
    obtain rfl := Option.some.inj hquery'
    have hasking := h.asking query hquery
    refine ⟨hasking.id, hasking.last, fun hlt => ?_, fun _ => ?_⟩
    · change notedCount s.server.history < s.calls.length at hlt
      omega
    · refine (answering_iff_of_some ?_).mpr ⟨result, hanswered, hreadAll⟩
      exact hsend

/-- The query reads the next message. -/
theorem read (h : Orderly config s) {query : Query} {message : Message} {rest : List Message}
    (hquery : s.query = some query) (hunread : s.unread = message :: rest) :
    match queryTurn query.id query.out message with
    | .reads out => Orderly config { s with
        readCount := s.readCount + 1
        query := some { query with out } }
    | .returns out => Orderly config (s.finish (.ok out))
    | .fails e => Orderly config (s.finish (.error e)) := by
  obtain ⟨hserving, left, result, hsend, hanswered, hreadAll⟩ := h.answer_of_unread hquery hunread
  have hasking := h.asking query hquery
  have hlength : (s.log.drop s.readCount).length = rest.length + 1 := by
    simpa [Conversation.unread] using congrArg List.length hunread
  rw [List.length_drop] at hlength
  have hrest : (s.log.drop (s.readCount + 1)).map Prod.snd = rest := by
    have htail := congrArg List.tail hunread
    rw [Conversation.unread, ← List.map_tail, List.tail_drop] at htail
    exact htail
  rw [readAll] at hreadAll
  -- a query that is over has read all there was, and the server has sent it all
  have hover : ∀ result', some (result', rest ++ left) = some (result, []) →
      Orderly config (s.finish result') := by
    intro result' heq
    obtain ⟨rfl, hnil⟩ := Prod.mk.inj (Option.some.inj heq)
    obtain ⟨rfl, rfl⟩ := List.append_eq_nil_iff.mp hnil
    rw [hasking.id, List.append_nil] at hanswered
    rw [List.length_nil] at hlength
    exact h.finish hserving hsend (by omega) hasking.last hanswered
  cases hturn : queryTurn query.id query.out message with
  | reads out =>
    rw [hturn] at hreadAll
    rw [← hrest] at hreadAll
    exact h.readOn hquery hserving hsend (by omega) hanswered hreadAll
  | returns out =>
    rw [hturn] at hreadAll
    exact hover _ hreadAll
  | fails e =>
    rw [hturn] at hreadAll
    exact hover _ hreadAll

theorem step (h : Orderly config s) {a : ConversationAction} (hguard : s.answersQueriesOnly config a)
    (hs : s.step config a = some s') : Orderly config s' := by
  cases a <;> simp only [Conversation.step] at hs
  case write cmd =>
    split at hs <;> cases hs
    rename_i hidle
    exact h.send hidle (show ClientCall.write ≠ .query by decide) hguard
  case query cmd =>
    split at hs <;> cases hs
    rename_i hidle
    exact h.query hidle hguard
  case trigger =>
    split at hs <;> cases hs
    rename_i hidle
    exact h.send hidle (show ClientCall.trigger ≠ .query by decide) (Nat.zero_le _)
  case clear =>
    split at hs
    · obtain ⟨server, hserver, rfl⟩ := serverStep_eq_some hs
      have hsound := h.sound.serverStep rfl hserver
      cases hserver
      exact h.silent hsound rfl rfl rfl rfl
    · cases hs
  case status live =>
    split at hs
    · obtain ⟨server, hserver, rfl⟩ := serverStep_eq_some hs
      have hsound := h.sound.serverStep rfl hserver
      cases hserver
      exact h.silent hsound rfl rfl rfl rfl
    · cases hs
  case deliver =>
    split at hs
    · rename_i msg rest hover honTheWay
      rw [if_neg (Nat.not_lt.mpr (h.fits msg (by rw [honTheWay]; exact List.mem_cons_self)))] at hs
      obtain ⟨server, hserver, rfl⟩ := serverStep_eq_some hs
      exact h.deliver honTheWay hserver
    · cases hs
  case read =>
    split at hs
    · rename_i query message rest hquery hunread
      have hread := h.read hquery hunread
      split at hs <;> rename_i hturn <;> cases hs <;> rw [hturn] at hread <;> exact hread
    · cases hs
  case server b =>
    split_ifs at hs with hown
    obtain ⟨server, hserver, rfl⟩ := serverStep_eq_some hs
    exact h.server hown hguard hserver

end Orderly

theorem reach_orderly (hmode : config.modes.prefersOverlapped = false)
    (h : Reach (Conversation.step config) (answersQueriesOnly config) (start config) s) :
    Orderly config s :=
  h.invariant (P := Orderly config) (orderly_start hmode)
    fun _ _ _ hinv hguard hs => hinv.step hguard hs

/-- Where an execution makes the server send something exactly for a query: every query that is over
returned the payloads the server sent for it under its own id, or failed with the error the server
sent for it. And once the server has served a query that is not, the messages for it are there to
finish it so. -/
theorem queries_get_their_own_answers (hmode : config.modes.prefersOverlapped = false)
    (h : Reach (Conversation.step config) (answersQueriesOnly config) (start config) s) :
    (∀ k result, (k, result) ∈ s.results → s.calls[k - 1]? = some .query ∧
      Answered (0xffffff00 + 2 * UInt32.ofNat (k - 1)) (logOf k s.log) result) ∧
    ∀ query, s.query = some query → s.onTheWay = [] → s.server.task = .reading →
      query.id = 0xffffff00 + 2 * UInt32.ofNat (s.calls.length - 1) ∧
      ∃ result, Answered query.id (logOf s.calls.length s.log) result ∧
        readAll query.id query.out s.unread = some (result, []) := by
  have horderly := reach_orderly hmode h
  constructor
  · intro k result hmem
    obtain ⟨-, -, hcalled, hanswered⟩ := horderly.results k result hmem
    exact ⟨hcalled, hanswered⟩
  · intro query hquery htaken htask
    have hasking := horderly.asking query hquery
    have hreceived := horderly.received
    rw [htaken, List.length_nil, Nat.add_zero] at hreceived
    have hsend : s.server.task.toSend = some [] := by rw [htask]; rfl
    have hans := (answering_iff_of_some hsend).mp (hasking.answering hreceived)
    simp only [List.append_nil] at hans
    exact ⟨hasking.id, hans⟩

/-- A query whose command fails. -/
theorem failed_query_gets_its_error :
    let config : SessionConfig := ⟨0x0100, 0x100000, .synchronized⟩
    ∃ s, Reach (Conversation.step config) (answersQueriesOnly config) (start config) s ∧
      s.results.length = 1 ∧ ∀ k result, (k, result) ∈ s.results →
        Answered (0xffffff00 + 2 * UInt32.ofNat (k - 1)) (logOf k s.log) result := by
  intro config
  have hstart : Reach (Conversation.step config) (answersQueriesOnly config) (start config)
    (start config) := .refl
  have hquery := hstart.tail (a := ConversationAction.query [0x3f])
    (show [0x3f].length ≤ config.maxMessageSize.toNat by decide +kernel) rfl
  have hdelivered := hquery.tail (a := ConversationAction.deliver) trivial rfl
  let failing : BusAnswers := { write := .error "timed out" }
  have hexecuted := hdelivered.tail (a := ConversationAction.server (.executed failing)) (by
    intro requestId cmd call htask hserved
    obtain rfl : ClientCall.query = call := Option.some.inj hserved
    exact iff_of_true rfl rfl) rfl
  have hwritten := hexecuted.tail (a := ConversationAction.server .written) trivial rfl
  have hreach := hwritten.tail (a := ConversationAction.read) trivial rfl
  exact ⟨_, hreach, rfl, fun k result hmem =>
    ((queries_get_their_own_answers rfl hreach).1 k result hmem).2⟩

/-- The instrument answers a write, and the next query fails on that answer. -/
theorem unsolicited_reply_fails_query :
    let config : SessionConfig := ⟨0x0100, 0x100000, .synchronized⟩
    ∃ s, Reach (Conversation.step config) anyStep (start config) s ∧
      (s.results == [(2, .error (.messageId 0xffffff00 0xffffff02))] &&
        s.calls == [.write, .query] && s.log.map Prod.fst == [1]) = true := by
  intro config
  exact exists_reach_of_exec (Conversation.step config) (start config) _
    [.write [0x2a], .deliver,
      .server (.executed { poll := .ok 0x10, read := .ok ([0x31], true) }),
      .server .beginReply, .server .sendNext, .server .replied, .query [0x3f], .read]
    (by decide +kernel)

end
end Conversation
end Ugpibd.Hislip
