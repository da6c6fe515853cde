import Ugpibd.Hislip.Conversation

/-! A query reads the messages of its reply one by one. What the server sends for it is a reply
split into messages, or one error, and reading exactly those gives the query's result. -/
namespace Ugpibd.Hislip
open Library SyncChannel Client

/-- The messages of a whole reply, and what they say together. -/
inductive IsReply (id : UInt32) : List Message → List UInt8 → Prop
  | last {message : Message} : message.messageType = .dataEnd → message.messageParameter = id →
      IsReply id [message] message.payload
  | cons {message : Message} {rest : List Message} {out : List UInt8} :
      message.messageType = .data → message.messageParameter = id → IsReply id rest out →
      IsReply id (message :: rest) (message.payload ++ out)

/-- The result of a query for which the server has sent exactly these messages: the payloads under
its id, or the error. -/
inductive Answered (id : UInt32) : List Message → Except QueryError (List UInt8) → Prop
  | reply {messages : List Message} {out : List UInt8} :
      IsReply id messages out → Answered id messages (.ok out)
  | error {message : Message} :
      message.messageType = .error → Answered id [message] (.error (.device message.payload))

/-- The query's loop over messages that are there, with the ones it leaves unread. -/
def readAll (id : UInt32) (out : List UInt8) :
    List Message → Option (Except QueryError (List UInt8) × List Message)
  | [] => none
  | message :: rest => match queryTurn id out message with
    | .reads out => readAll id out rest
    | .returns out => some (.ok out, rest)
    | .fails e => some (.error e, rest)

/-- An execution makes the server send something: a reply or an error. -/
def speaks : Except String Execution → Bool
  | .ok ⟨none, _⟩ => false
  | _ => true

/-- What is left to send for the message being served; not known before its command is executed
and its reply split. -/
def SyncTask.toSend : SyncTask → Option (List Message)
  | .executing .. | .answering .. => none
  | .sending requestId rest _ => some (rest.map fun p => ⟨p.1, 0, requestId, p.2⟩)
  | .writing message _ => some [message]
  | .reading | .triggering | .ended => some []

/-- The task sends nothing, or it has a command to execute first. -/
def SyncTask.quiet : SyncTask → Bool
  | .executing .. => true
  | task => task.toSend == some []

section
variable {id requestId : UInt32} {out : List UInt8} {messages rest : List Message}
  {result : Except QueryError (List UInt8)}

theorem IsReply.readAll (h : IsReply id messages out) (front : List UInt8) :
    readAll id front messages = some (.ok (front ++ out), []) := by
  induction h generalizing front with
  | last htype hid => simp [Hislip.readAll, queryTurn, htype, hid]
  | cons htype hid _ ih => simp [Hislip.readAll, queryTurn, htype, hid, ih]

theorem Answered.readAll (h : Answered id messages result) :
    readAll id [] messages = some (result, []) := by
  cases h with
  | reply h => simpa using h.readAll []
  | error h => simp [Hislip.readAll, queryTurn, h]

theorem isReply_markEnd {pieces : List (List UInt8)} (h : pieces ≠ []) :
    IsReply requestId ((markEnd pieces).map fun p => ⟨p.1, 0, requestId, p.2⟩) pieces.flatten := by
  fun_induction markEnd pieces with
  | case1 => exact absurd rfl h
  | case2 piece =>
    have hlast : IsReply requestId [⟨.dataEnd, 0, requestId, piece⟩] piece := .last rfl rfl
    simpa using hlast
  | case3 piece rest hrest ih =>
    exact .cons rfl rfl (ih (by rintro rfl; exact hrest rfl))

/-- The server splits a reply into messages of that reply. -/
theorem isReply_replyPieces (declared : UInt64) (requestId : UInt32) (data : List UInt8) :
    IsReply requestId ((replyPieces declared data).map fun p => ⟨p.1, 0, requestId, p.2⟩) data := by
  unfold replyPieces
  split_ifs with hdata
  · exact hdata ▸ .last rfl rfl
  · have hne : chunks (chunkSize declared) data ≠ [] := by
      rw [chunks_cons hdata (chunkSize_pos _)]
      exact List.cons_ne_nil _ _
    have hpieces : IsReply requestId _ (chunks (chunkSize declared) data).flatten :=
      isReply_markEnd hne
    rw [chunks_flatten (chunkSize_pos _)] at hpieces
    exact hpieces

end

section
variable {history : List SessionEvent} {log : List (Nat × Message)} {n k : Nat} {message : Message}

theorem written_le (h : (k, message) ∈ written history) : k ≤ notedCount history := by
  induction history with
  | nil => cases h
  | cons e older ih =>
    have hold : notedCount older ≤ notedCount (e :: older) := by
      cases e <;> simp [notedCount]
    cases e with
    | sent m | wrote m =>
      rcases List.mem_append.mp h with h | h
      · exact ih h
      · rw [(Prod.mk.inj (List.mem_singleton.mp h)).1]
        exact hold
    | _ => exact Nat.le_trans (ih h) hold

theorem logOf_concat_self : logOf n (log ++ [(n, message)]) = logOf n log ++ [message] := by
  simp [logOf]

theorem logOf_concat_of_ne (h : n ≠ k) : logOf k (log ++ [(n, message)]) = logOf k log := by
  simp [logOf, h]

/-- Nothing has been written for a message that has not been noted. -/
theorem logOf_written_next (history : List SessionEvent) :
    logOf (notedCount history + 1) (written history) = [] := by
  rw [logOf, List.map_eq_nil_iff, List.filter_eq_nil_iff]
  rintro ⟨k, message⟩ h
  have := written_le h
  simp only [decide_eq_true_eq]
  omega

end

end Ugpibd.Hislip
