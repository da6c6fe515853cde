import Ugpibd.Hislip.QueryReplies

/-! A client that waits for the answer to each query before it goes on, and a server that sends
nothing else. What the two have to agree on at any time, and what keeps it. -/
namespace Ugpibd.Hislip
open Library SyncChannel Client

namespace Conversation

/-- The call whose message the server is serving. -/
def served (s : Conversation) : Option ClientCall := s.calls[notedCount s.server.history - 1]?

/-- Commands are within the server's limit, and an execution makes the server send something exactly
if the client is going to read for it. -/
def answersQueriesOnly (config : SessionConfig) (s : Conversation) : ConversationAction → Prop
  | .write cmd | .query cmd => cmd.length ≤ config.maxMessageSize.toNat
  | .server (.executed bus) => ∀ requestId cmd call, s.server.task = .executing requestId cmd →
      s.served = some call → (speaks (execute (queryHint cmd) bus) = true ↔ call = .query)
  | _ => True

/-- The client has read all there is, and the server is not about to send. -/
structure CaughtUp (s : Conversation) : Prop where
  read : s.readCount = s.log.length
  quiet : s.server.task.quiet = true

/-- The server is serving the query. Before its command is executed and its reply split there is
nothing to read; after that, what is unread and what is left to send finish the query as they
should. -/
def Answering (s : Conversation) (query : Query) : Prop :=
  match s.server.task.toSend with
  | none => s.readCount = s.log.length ∧ query.out = [] ∧ logOf s.calls.length s.log = []
  | some rest => ∃ result, Answered query.id (logOf s.calls.length s.log ++ rest) result ∧
      readAll query.id query.out (s.unread ++ rest) = some (result, [])

/-- The last call is the query, and the server comes to it after the calls before it. -/
structure Asking (s : Conversation) (query : Query) : Prop where
  id : query.id = serverId (s.calls.length - 1)
  last : s.calls[s.calls.length - 1]? = some .query
  before : notedCount s.server.history < s.calls.length → s.CaughtUp ∧ query.out = []
  answering : notedCount s.server.history = s.calls.length → s.Answering query

/-- What holds of a client and a server that answers queries only. -/
structure Orderly (config : SessionConfig) (s : Conversation) : Prop where
  sound : s.Sound
  overrun : s.overrun = false
  fits : ∀ msg ∈ s.onTheWay, msg.payload.length ≤ config.maxMessageSize.toNat
  read_le : s.readCount ≤ s.log.length
  queries : ∀ k, s.calls[k]? = some .query → k + 1 = s.calls.length ∧ s.query.isSome ∨
    k + 1 ≤ notedCount s.server.history ∧
      (k + 1 = notedCount s.server.history → s.server.task.toSend = some [])
  results : ∀ k result, (k, result) ∈ s.results → k ≤ s.calls.length ∧
    (s.query.isSome → k < s.calls.length) ∧ s.calls[k - 1]? = some .query ∧
    Answered (serverId (k - 1)) (logOf k s.log) result
  idle : s.query = none → s.CaughtUp
  asking : ∀ query, s.query = some query → s.Asking query

section
variable {config : SessionConfig} {s s' : Conversation}

theorem getElem?_append_of_eq_some {α : Type*} {l l' : List α} {k : Nat} {x : α}
    (h : l[k]? = some x) : (l ++ l')[k]? = some x := by
  rw [List.getElem?_append_left (List.getElem?_eq_some_iff.mp h).1, h]

theorem answering_iff_of_none {query : Query} (h : s.server.task.toSend = none) :
    s.Answering query ↔
      s.readCount = s.log.length ∧ query.out = [] ∧ logOf s.calls.length s.log = [] := by
  rw [Answering, h]

theorem answering_iff_of_some {query : Query} {rest : List Message}
    (h : s.server.task.toSend = some rest) :
    s.Answering query ↔ ∃ result, Answered query.id (logOf s.calls.length s.log ++ rest) result ∧
      readAll query.id query.out (s.unread ++ rest) = some (result, []) := by
  rw [Answering, h]

theorem orderly_start (hmode : config.modes.prefersOverlapped = false) :
    Orderly config (start config) where
  sound := sound_start hmode
  overrun := rfl
  fits := nofun
  read_le := Nat.le_refl 0
  queries := nofun
  results := nofun
  idle := fun _ => ⟨rfl, rfl⟩
  asking := nofun

namespace Orderly

theorem received (h : Orderly config s) :
    notedCount s.server.history + s.onTheWay.length = s.calls.length :=
  (h.sound.inOrder h.overrun).received

/-- The id of the message being served. -/
theorem request (h : Orderly config s) {requestId : UInt32}
    (htask : s.server.task.request = some requestId) :
    0 < notedCount s.server.history ∧
      requestId = serverId (notedCount s.server.history - 1) := by
  have hlatest := h.sound.follows.request requestId htask
  rw [(h.sound.inOrder h.overrun).latest] at hlatest
  cases hcount : notedCount s.server.history with
  | zero =>
    rw [hcount] at hlatest
    cases hlatest
  | succ n =>
    rw [hcount] at hlatest
    exact ⟨Nat.succ_pos n, (Option.some.inj hlatest).symm⟩

/-- While the client waits for nothing, every query has been served. -/
theorem queries_served (h : Orderly config s) (hidle : s.query = none) {k : Nat}
    (hk : s.calls[k]? = some .query) : k + 1 ≤ notedCount s.server.history ∧
      (k + 1 = notedCount s.server.history → s.server.task.toSend = some []) := by
  rcases h.queries k hk with ⟨-, hquery⟩ | hserved
  · rw [hidle] at hquery
    cases hquery
  · exact hserved

theorem fits_send (h : Orderly config s) (call : ClientCall) {payload : List UInt8}
    (hfits : payload.length ≤ config.maxMessageSize.toNat) :
    ∀ msg ∈ (s.send call payload).onTheWay, msg.payload.length ≤ config.maxMessageSize.toNat := by
  intro msg hmsg
  rcases List.mem_append.mp hmsg with hmsg | hmsg
  · exact h.fits msg hmsg
  · rw [List.mem_singleton.mp hmsg]
    exact hfits

theorem results_send (h : Orderly config s) (call : ClientCall) (payload : List UInt8) {k : Nat}
    {result : Except QueryError (List UInt8)} (hmem : (k, result) ∈ s.results) :
    k < (s.send call payload).calls.length ∧
      (s.send call payload).calls[k - 1]? = some .query ∧
      Answered (serverId (k - 1)) (logOf k s.log) result := by
  obtain ⟨hle, -, hcalled, hanswered⟩ := h.results k result hmem
  refine ⟨?_, getElem?_append_of_eq_some hcalled, hanswered⟩
  change k < (s.calls ++ [call]).length
  rw [List.length_append, List.length_singleton]
  omega

/-- A call that is not a query joins the ones on their way. -/
theorem send (h : Orderly config s) (hidle : s.query = none) {call : ClientCall}
    (hcall : call ≠ .query) {payload : List UInt8}
    (hfits : payload.length ≤ config.maxMessageSize.toNat) :
    Orderly config (s.send call payload) where
  sound := h.sound.send call payload
  overrun := h.overrun
  fits := h.fits_send call hfits
  read_le := h.read_le
  queries := by
    intro k hk
    change (s.calls ++ [call])[k]? = some .query at hk
    rcases Nat.lt_or_ge k s.calls.length with hlt | hge
    · rw [List.getElem?_append_left hlt] at hk
      exact .inr (h.queries_served hidle hk)
    · rw [List.getElem?_append_right hge] at hk
      exact absurd (List.mem_singleton.mp (List.mem_of_getElem? hk)).symm hcall
  results := by
    intro k result hmem
    obtain ⟨hlt, hcalled, hanswered⟩ := h.results_send call payload hmem
    exact ⟨Nat.le_of_lt hlt, fun _ => hlt, hcalled, hanswered⟩
  idle := fun _ => ⟨(h.idle hidle).read, (h.idle hidle).quiet⟩
  asking := by
    intro query hquery
    change s.query = some query at hquery
    rw [hidle] at hquery
    cases hquery

/-- A query does too, and waits for its reply. -/
theorem query (h : Orderly config s) (hidle : s.query = none) {payload : List UInt8}
    (hfits : payload.length ≤ config.maxMessageSize.toNat) :
    Orderly config { s.send .query payload with query := some { id := s.messageId } } := by
  have hlen : (s.calls ++ [ClientCall.query]).length = s.calls.length + 1 := List.length_append
  have hreceived := h.received
  refine ⟨(h.sound.send .query payload).readOn _ _ _, h.overrun, h.fits_send .query hfits,
    h.read_le, ?_, ?_, nofun, ?_⟩
  · intro k hk
    change (s.calls ++ [ClientCall.query])[k]? = some .query at hk
    rcases Nat.lt_or_ge k s.calls.length with hlt | hge
    · rw [List.getElem?_append_left hlt] at hk
      exact .inr (h.queries_served hidle hk)
    · have hlt := (List.getElem?_eq_some_iff.mp hk).1
      refine .inl ⟨?_, rfl⟩
      change k + 1 = (s.calls ++ [ClientCall.query]).length
      omega
  · intro k result hmem
    obtain ⟨hlt, hcalled, hanswered⟩ := h.results_send .query payload hmem
    exact ⟨Nat.le_of_lt hlt, fun _ => hlt, hcalled, hanswered⟩
  · intro query hquery
    obtain rfl := Option.some.inj hquery
    refine ⟨?_, ?_, fun _ => ⟨⟨(h.idle hidle).read, (h.idle hidle).quiet⟩, rfl⟩, fun hcount => ?_⟩
    · change s.messageId = serverId ((s.calls ++ [ClientCall.query]).length - 1)
      rw [hlen, Nat.add_sub_cancel, h.sound.messageId]
    · change (s.calls ++ [ClientCall.query])[(s.calls ++ [ClientCall.query]).length - 1]? = _
      rw [hlen, Nat.add_sub_cancel, List.getElem?_concat_length]
    · change notedCount s.server.history = (s.calls ++ [ClientCall.query]).length at hcount
      omega

/-- A step that writes nothing leaves the results what they were. -/
theorem results_kept (h : Orderly config s) {server : SyncChannel}
    (hlog : written server.history = s.log) :
    ∀ k result, (k, result) ∈ s.results → k ≤ s.calls.length ∧
      (s.query.isSome → k < s.calls.length) ∧ s.calls[k - 1]? = some .query ∧
      Answered (serverId (k - 1)) (logOf k (written server.history)) result := by
  rw [hlog]
  exact h.results

/-- A step of the server that writes nothing. -/
theorem writesNothing (h : Orderly config s) {server : SyncChannel}
    (hsound : { s with server }.Sound)
    (hcount : notedCount server.history = notedCount s.server.history)
    (hlog : written server.history = s.log)
    (hsettled : s.server.task.toSend = some [] → server.task.toSend = some [])
    (hquiet : s.query = none ∨ notedCount s.server.history < s.calls.length →
      s.server.task.quiet = true → server.task.quiet = true)
    (hanswering : ∀ query, s.query = some query → notedCount s.server.history = s.calls.length →
      s.Answering query → { s with server }.Answering query) :
    Orderly config { s with server } where
  sound := hsound
  overrun := h.overrun
  fits := h.fits
  read_le := h.read_le.trans (congrArg List.length hlog.symm).le
  queries := by
    intro k hk
    rcases h.queries k hk with hlast | ⟨hle, hdone⟩
    · exact .inl hlast
    · refine .inr ⟨by rw [hcount]; exact hle, fun heq => hsettled (hdone ?_)⟩
      rw [← hcount]
      exact heq
  results := h.results_kept hlog
  idle := by
    intro hidle
    refine ⟨?_, hquiet (.inl hidle) (h.idle hidle).quiet⟩
    exact (h.idle hidle).read.trans (congrArg List.length hlog.symm)
  asking := by
    intro query hquery
    obtain ⟨hid, hlast, hbefore, hans⟩ := h.asking query hquery
    refine ⟨hid, hlast, fun hlt => ?_, fun heq => ?_⟩
    · change notedCount server.history < s.calls.length at hlt
      rw [hcount] at hlt
      obtain ⟨⟨hread, hq⟩, hout⟩ := hbefore hlt
      refine ⟨⟨?_, hquiet (.inr hlt) hq⟩, hout⟩
      exact hread.trans (congrArg List.length hlog.symm)
    · change notedCount server.history = s.calls.length at heq
      rw [hcount] at heq
      exact hanswering query hquery heq (hans heq)

/-- One that leaves what is to be sent as it is. -/
theorem silent (h : Orderly config s) {server : SyncChannel} (hsound : { s with server }.Sound)
    (hcount : notedCount server.history = notedCount s.server.history)
    (hlog : written server.history = s.log)
    (hsend : server.task.toSend = s.server.task.toSend)
    (hquiet : server.task.quiet = s.server.task.quiet) : Orderly config { s with server } := by
  refine h.writesNothing hsound hcount hlog (fun hnil => by rw [hsend, hnil])
    (fun _ hq => by rw [hquiet, hq]) fun query _ _ hans => ?_
  have hlog' : { s with server }.log = s.log := hlog
  have hunread : { s with server }.unread = s.unread := by
    simp only [Conversation.unread, hlog']
  have hsend' : { s with server }.server.task.toSend = s.server.task.toSend := hsend
  rw [Answering, hlog', hunread, hsend']
  exact hans

theorem not_quiet_of_cons {task : SyncTask} {message : Message} {rest : List Message}
    (h : task.toSend = some (message :: rest)) : task.quiet = false := by
  cases task <;> simp_all [SyncTask.toSend, SyncTask.quiet]

/-- The server is not quiet only for the query that the client is waiting for. -/
theorem answering_of_not_quiet (h : Orderly config s) (hquiet : s.server.task.quiet = false) :
    ∃ query, s.query = some query ∧ notedCount s.server.history = s.calls.length ∧
      s.Asking query := by
  cases hquery : s.query with
  | none =>
    have := (h.idle hquery).quiet
    rw [hquiet] at this
    cases this
  | some query =>
    have hasking := h.asking query hquery
    refine ⟨query, rfl, ?_, hasking⟩
    have hreceived := h.received
    by_contra hne
    have hq := (hasking.before (by omega)).1.quiet
    rw [hquiet] at hq
    cases hq

/-- The server writes the next message it has to send. -/
theorem writes (h : Orderly config s) {server : SyncChannel} {message : Message}
    {rest : List Message} (hsound : { s with server }.Sound)
    (hcount : notedCount server.history = notedCount s.server.history)
    (hlog : written server.history = s.log ++ [(notedCount s.server.history, message)])
    (hsend : s.server.task.toSend = some (message :: rest))
    (hsend' : server.task.toSend = some rest) : Orderly config { s with server } := by
  obtain ⟨query, hquery, hserving, hasking⟩ := h.answering_of_not_quiet (not_quiet_of_cons hsend)
  have hlog' : { s with server }.log = s.log ++ [(s.calls.length, message)] := by
    rw [← hserving]
    exact hlog
  have hunread : { s with server }.unread = s.unread ++ [message] := by
    simp only [Conversation.unread, hlog', List.drop_append_of_le_length h.read_le, List.map_append,
      List.map_cons, List.map_nil]
  refine ⟨hsound, h.overrun, h.fits, ?_, ?_, ?_, ?_, ?_⟩
  · rw [hlog', List.length_append]
    exact Nat.le_trans h.read_le (Nat.le_add_right _ _)
  · intro k hk
    rcases h.queries k hk with hlast | ⟨hle, hdone⟩
    · exact .inl hlast
    · refine .inr ⟨by rw [hcount]; exact hle, fun heq => ?_⟩
      have hnil := hdone (by rw [← hcount]; exact heq)
      rw [hsend] at hnil
      cases hnil
  · intro k result hmem
    obtain ⟨hle, hlt, hcalled, hanswered⟩ := h.results k result hmem
    refine ⟨hle, hlt, hcalled, ?_⟩
    have hne : s.calls.length ≠ k := by
      have := hlt (by rw [hquery]; rfl)
      omega
    rw [hlog', logOf_concat_of_ne hne]
    exact hanswered
  · intro hidle
    change s.query = none at hidle
    rw [hquery] at hidle
    cases hidle
  · intro query' hquery'
    change s.query = some query' at hquery'
    obtain rfl := Option.some.inj (hquery.symm.trans hquery')
    refine ⟨hasking.id, hasking.last, fun hlt => ?_, fun _ => ?_⟩
    · change notedCount server.history < s.calls.length at hlt
      omega
    · obtain ⟨result, hanswered, hread⟩ :=
        (answering_iff_of_some hsend).mp (hasking.answering hserving)
      refine (answering_iff_of_some hsend').mpr ⟨result, ?_, ?_⟩
      · change Answered _ (logOf s.calls.length { s with server }.log ++ rest) result
        rw [hlog', logOf_concat_self, List.append_assoc]
        exact hanswered
      · rw [hunread, List.append_assoc]
        exact hread

end Orderly
end
end Conversation
end Ugpibd.Hislip
