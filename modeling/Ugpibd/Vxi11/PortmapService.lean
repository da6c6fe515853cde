import Ugpibd.Library.Runs
import Ugpibd.Vxi11.CoreChannel

/-! The portmapper: one table for datagrams and for connections, and the three questions the program
itself asks a portmapper. A question is a datagram that is sent again when no answer comes; the
network may lose datagrams, repeat them and deliver them late. -/
namespace Ugpibd.Vxi11.Portmap
open Library Xdr Messages Rpc

def pmapProg : UInt32 := 100000
def pmapVers : UInt32 := 2
def ipprotoTcp : UInt32 := 6
def ipprotoUdp : UInt32 := 17

inductive Procedure
  | null
  | set
  | unset
  | getport
  | dump
  | callit
  deriving DecidableEq, Repr

def Procedure.number : Procedure → UInt32
  | .null => 0
  | .set => 1
  | .unset => 2
  | .getport => 3
  | .dump => 4
  | .callit => 5

def Procedure.ofNumber (proc : UInt32) : Option Procedure :=
  [.null, .set, .unset, .getport, .dump, .callit].find? fun procedure => procedure.number = proc

/-- The port of the first mapping for the program, the version and the protocol, or zero. -/
def lookup (table : List Mapping) (wanted : Mapping) : UInt32 :=
  ((table.find? fun m => m.prog = wanted.prog ∧ m.vers = wanted.vers ∧ m.prot = wanted.prot).map
    Mapping.port).getD 0

/-- The results of a procedure, or none for arguments that do not decode. -/
def results (table : List Mapping) (args : List UInt8) : Procedure → Option (List UInt8)
  | .getport => match Cursor.decode Mapping.decode args with
    | .ok wanted => some (encodeGetportReply (lookup table wanted))
    | .error _ => none
  | .dump => some (encodeDumpReply table)
  -- the table is fixed
  | .set => some (putBool false)
  | .unset => some (putBool false)
  | _ => some []

/-- The reply to a call. Some calls get none. -/
def dispatch (table : List Mapping) (record : List UInt8) : Option (List UInt8) :=
  match decodeCall record with
  | .error (.rpcVersion xid _) => some (replyRpcMismatch xid)
  | .error _ => none
  | .ok (header, args) =>
    if header.prog ≠ pmapProg then some (replyProgUnavail header.xid)
    else if header.vers ≠ pmapVers then some (replyProgMismatch header.xid pmapVers pmapVers)
    else match Procedure.ofNumber header.proc with
      | none => some (replyProcUnavail header.xid)
      | some .callit => none
      | some procedure => some (match results table args procedure with
        | some results => replySuccess header.xid results
        | none => replyGarbageArgs header.xid)

/-- The bytes of a datagram that either end has room for. -/
def datagramMax : Nat := 4096

/-- What a connection writes for what it is sent: it ends with the first record that is too long, or
that gets no reply. -/
def serveConnection (table : List Mapping) (stream : Stream) : List UInt8 :=
  match _hrecord : readRecord datagramMax stream with
  | .error _ => []
  | .ok none => []
  | .ok (some (record, rest)) => match (dispatch table record).bind writeRecord with
    | none => []
    | some written => written ++ serveConnection table rest
termination_by stream.bytes.length
decreasing_by exact readFragments_length _hrecord

/-- The table of a portmapper that owns its port, for the port of the core channel. -/
def coreMapping (corePort : UInt16) : Mapping where
  prog := CoreChannel.deviceCoreProg
  vers := CoreChannel.deviceCoreVers
  prot := ipprotoTcp
  port := corePort.toUInt32

def servedTable (corePort selfPort : UInt16) : List Mapping :=
  [coreMapping corePort, ⟨pmapProg, pmapVers, ipprotoTcp, selfPort.toUInt32⟩,
    ⟨pmapProg, pmapVers, ipprotoUdp, selfPort.toUInt32⟩]

/-- The questions to a portmapper. -/
inductive Query
  | setRegistration (mapping : Mapping) (register : Bool)
  | probe
  | getport (mapping : Mapping)
  deriving DecidableEq, Repr

inductive QueryError
  | io
  | noAnswer
  | badReply (e : ReplyError)
  | answered (body : ReplyBody)
  | garbled (e : XdrError)
  deriving DecidableEq, Repr

inductive Answer
  | accepted (accepted : Bool)
  | home (home : Bool)
  | port (port : UInt32)
  | error (e : QueryError)
  deriving DecidableEq, Repr

namespace Query

def xid : Query → UInt32
  | setRegistration _ _ => 1
  | probe => 2
  | getport _ => 3

def procedure : Query → Procedure
  | setRegistration _ register => if register then .set else .unset
  | probe => .null
  | getport _ => .getport

def args : Query → List UInt8
  | setRegistration mapping _ => mapping.encode
  | probe => []
  | getport mapping => mapping.encode

def attempts : Query → Nat
  | setRegistration _ _ => 3
  | probe => 2
  | getport _ => 1

/-- The room for an answer. -/
def room : Query → Nat
  | setRegistration _ _ => 512
  | probe => 128
  | getport _ => 128

def call (q : Query) : List UInt8 := encodeCall q.xid pmapProg pmapVers q.procedure.number q.args

/-- The results of a call that went through, decoded. -/
def succeeded {α : Type} (decode : List UInt8 → Except XdrError α) (answer : α → Answer) :
    Except ReplyError ReplyBody → Answer
  | .ok (.success body) => match decode body with
    | .ok value => answer value
    | .error e => .error (.garbled e)
  | .ok other => .error (.answered other)
  | .error e => .error (.badReply e)

/-- What a datagram that has arrived is taken for. Any reply at all tells that someone is home. -/
def finish (q : Query) (datagram : List UInt8) : Answer :=
  let reply := decodeReply (datagram.take q.room) q.xid
  match q with
  | setRegistration _ _ => succeeded (Cursor.decode Cursor.bool) .accepted reply
  | probe => .home reply.isOk
  | getport _ => succeeded (Cursor.decode Cursor.u32) .port reply

def unanswered : Query → Answer
  | probe => .home false
  | _ => .error .noAnswer

/-- The answer when a datagram cannot be sent. -/
def unsent : Query → Answer
  | probe => .home false
  | _ => .error .io

end Query

/-- A question under way. Datagrams stay in the network once they are sent, and may arrive any number of
times from then on. -/
structure Asking where
  left : Nat
  waiting : Bool := false
  calls : List (List UInt8) := []
  replies : List (List UInt8) := []
  answer : Option Answer := none
  deriving DecidableEq, Repr

inductive Action
  | send
  | sendFails
  | arriveCall (i : Nat)
  | arriveReply (i : Nat)
  | receiveFails
  | timeout
  deriving DecidableEq, Repr

namespace Asking

/-- An attempt ends without an answer. -/
def missed (q : Query) (a : Asking) : Asking :=
  if a.left = 0 then { a with waiting := false, answer := some q.unanswered }
  else { a with waiting := false }

def step (table : List Mapping) (q : Query) (a : Asking) : Action → Option Asking
  | .send =>
    if a.answer = none ∧ a.waiting = false ∧ 0 < a.left then
      some { a with left := a.left - 1, waiting := true, calls := a.calls ++ [q.call] }
    else none
  | .sendFails =>
    if a.answer = none ∧ a.waiting = false ∧ 0 < a.left then some { a with answer := some q.unsent }
    else none
  | .arriveCall i => (a.calls[i]?).map fun call =>
      { a with replies := a.replies ++ (dispatch table (call.take datagramMax)).toList }
  | .arriveReply i =>
    if a.waiting then
      (a.replies[i]?).map fun reply => { a with waiting := false, answer := some (q.finish reply) }
    else none
  | .receiveFails =>
    if a.waiting then
      some (match q with
        | .probe => a.missed q
        | _ => { a with waiting := false, answer := some (.error .io) })
    else none
  | .timeout => if a.waiting then some (a.missed q) else none

end Asking

/-- What the table says to a question. -/
def Query.expected (table : List Mapping) : Query → Answer
  | setRegistration _ _ => .accepted false
  | probe => .home true
  | getport mapping => .port (lookup table mapping)

theorem ofNumber_number (procedure : Procedure) :
    Procedure.ofNumber procedure.number = some procedure := by
  cases procedure <;> decide

theorem decodeReply_success (xid : UInt32) (found : List UInt8) :
    decodeReply (replySuccess xid found) xid = .ok (.success found) := by
  have hreply := decodeReply_accepted xid success found
  rwa [if_pos rfl] at hreply

/-- A call to the portmapper that it answers. -/
structure Request where
  xid : UInt32
  procedure : Procedure
  args : List UInt8
  answered : procedure ≠ .callit

namespace Request

def record (request : Request) : List UInt8 :=
  encodeCall request.xid pmapProg pmapVers request.procedure.number request.args

def reply (table : List Mapping) (request : Request) : List UInt8 :=
  match results table request.args request.procedure with
  | some results => replySuccess request.xid results
  | none => replyGarbageArgs request.xid

/-- What the reply says. -/
def body (table : List Mapping) (request : Request) : ReplyBody :=
  match results table request.args request.procedure with
  | some results => .success results
  | none => .accepted garbageArgs

theorem dispatch_record (table : List Mapping) (request : Request) :
    dispatch table request.record = some (request.reply table) := by
  have hheader : decodeCall request.record =
      .ok (⟨request.xid, pmapProg, pmapVers, request.procedure.number⟩, request.args) :=
    (callHeader_reads _).whole request.args
  have hne := request.answered
  rw [dispatch, hheader]
  simp only [ne_eq, not_true_eq_false, if_false, ofNumber_number]
  cases hprocedure : request.procedure with
  | callit => exact absurd hprocedure hne
  | null | set | unset | getport | dump => rw [reply, hprocedure]

theorem decodeReply_reply (table : List Mapping) (request : Request) :
    decodeReply (request.reply table) request.xid = .ok (request.body table) := by
  rw [reply, body]
  cases results table request.args request.procedure with
  | some found => exact decodeReply_success request.xid found
  | none =>
    have hreply := decodeReply_accepted request.xid garbageArgs []
    rwa [List.append_nil, if_neg (by decide)] at hreply

end Request

section
variable {table : List Mapping} {q : Query} {a a' : Asking}

theorem mapping_encode_length (m : Mapping) : m.encode.length = 16 := by
  simp [Mapping.encode]

/-- The results the table has for a question. -/
def Query.found (table : List Mapping) : Query → List UInt8
  | setRegistration _ _ => putBool false
  | probe => []
  | getport mapping => encodeGetportReply (lookup table mapping)

theorem results_query (table : List Mapping) (q : Query) :
    results table q.args q.procedure = some (q.found table) := by
  cases q with
  | setRegistration mapping register => cases register <;> rfl
  | probe => rfl
  | getport mapping =>
    have hdecode := mapping_faithful.whole mapping trivial []
    rw [List.append_nil] at hdecode
    simp only [Query.args, Query.procedure, results, hdecode]
    rfl

theorem query_procedure_ne (q : Query) : q.procedure ≠ .callit := by
  intro h
  cases q with
  | setRegistration mapping register => cases register <;> cases h
  | probe => cases h
  | getport mapping => cases h

theorem query_call_length (q : Query) : q.call.length ≤ datagramMax := by
  have hlimit : datagramMax = 4096 := rfl
  have hargs : q.args.length ≤ 16 := by cases q <;> simp [Query.args, mapping_encode_length]
  rw [Query.call, CoreChannel.encodeCall_length]
  omega

theorem found_length (table : List Mapping) (q : Query) : (q.found table).length ≤ 4 := by
  cases q <;> simp [Query.found, putBool, encodeGetportReply]

/-- The table's reply to a question. -/
theorem dispatch_query (table : List Mapping) (q : Query) :
    dispatch table (q.call.take datagramMax) = some (replySuccess q.xid (q.found table)) := by
  have hreply := Request.dispatch_record table ⟨q.xid, q.procedure, q.args, query_procedure_ne q⟩
  rw [Request.reply, results_query] at hreply
  rw [List.take_of_length_le (query_call_length q)]
  exact hreply

/-- The reply is understood. -/
theorem finish_reply (table : List Mapping) (q : Query) :
    q.finish (replySuccess q.xid (q.found table)) = q.expected table := by
  have hroom : (replySuccess q.xid (q.found table)).length ≤ q.room := by
    have hfound := found_length table q
    have hroom : 128 ≤ q.room := by cases q <;> simp [Query.room]
    rw [replySuccess, List.length_append, CoreChannel.accepted_length]
    omega
  simp only [Query.finish, List.take_of_length_le hroom, decodeReply_success]
  cases q with
  | setRegistration mapping register =>
    have hbool := (Cursor.bool_reads false).whole []
    rw [List.append_nil] at hbool
    simp only [Query.succeeded, Query.found, Cursor.decode, hbool]
    rfl
  | probe => rfl
  | getport mapping =>
    have hport := getportReply_faithful.whole (lookup table mapping) trivial []
    rw [List.append_nil] at hport
    simp only [Query.succeeded, Query.found, hport]
    rfl

/-- What holds of a question throughout: the network holds nothing but its calls and their replies. -/
structure Asking.Sound (table : List Mapping) (q : Query) (a : Asking) : Prop where
  calls : ∀ call ∈ a.calls, call = q.call
  replies : ∀ reply ∈ a.replies, reply = replySuccess q.xid (q.found table)
  answer : ∀ answer ∈ a.answer, answer = q.expected table ∨ answer = q.unanswered ∨
    answer = .error .io

theorem Asking.Sound.missed (h : a.Sound table q) : (a.missed q).Sound table q := by
  unfold Asking.missed
  split
  · refine ⟨h.calls, h.replies, fun answer hanswer => ?_⟩
    obtain rfl := Option.some.inj hanswer
    exact .inr (.inl rfl)
  · exact ⟨h.calls, h.replies, h.answer⟩

theorem Asking.Sound.step (h : a.Sound table q) {action : Action}
    (hstep : a.step table q action = some a') : a'.Sound table q := by
  cases action with
  | send =>
    simp only [Asking.step, Option.ite_none_right_eq_some, Option.some.injEq] at hstep
    obtain ⟨-, rfl⟩ := hstep
    refine ⟨fun call hcall => ?_, h.replies, h.answer⟩
    rcases List.mem_append.mp hcall with hcall | hcall
    · exact h.calls call hcall
    · exact List.mem_singleton.mp hcall
  | sendFails =>
    simp only [Asking.step, Option.ite_none_right_eq_some, Option.some.injEq] at hstep
    obtain ⟨-, rfl⟩ := hstep
    refine ⟨h.calls, h.replies, fun answer hanswer => ?_⟩
    obtain rfl := Option.some.inj hanswer
    cases q with
    | setRegistration mapping register => exact .inr (.inr rfl)
    | probe => exact .inr (.inl rfl)
    | getport mapping => exact .inr (.inr rfl)
  | arriveCall i =>
    obtain ⟨call, hcall, rfl⟩ := Option.map_eq_some_iff.mp hstep
    obtain rfl := h.calls call (List.mem_of_getElem? hcall)
    refine ⟨h.calls, fun reply hreply => ?_, h.answer⟩
    rw [dispatch_query, Option.toList_some] at hreply
    rcases List.mem_append.mp hreply with hreply | hreply
    · exact h.replies reply hreply
    · exact List.mem_singleton.mp hreply
  | arriveReply i =>
    simp only [Asking.step, Option.ite_none_right_eq_some] at hstep
    obtain ⟨-, hstep⟩ := hstep
    obtain ⟨reply, hreply, rfl⟩ := Option.map_eq_some_iff.mp hstep
    obtain rfl := h.replies reply (List.mem_of_getElem? hreply)
    refine ⟨h.calls, h.replies, fun answer hanswer => ?_⟩
    obtain rfl := Option.some.inj hanswer
    exact .inl (finish_reply table q)
  | receiveFails =>
    simp only [Asking.step, Option.ite_none_right_eq_some, Option.some.injEq] at hstep
    obtain ⟨-, rfl⟩ := hstep
    have hio : Asking.Sound table q { a with waiting := false, answer := some (.error .io) } := by
      refine ⟨h.calls, h.replies, fun answer hanswer => ?_⟩
      obtain rfl := Option.some.inj hanswer
      exact .inr (.inr rfl)
    cases q with
    | setRegistration mapping register => exact hio
    | probe => exact h.missed
    | getport mapping => exact hio
  | timeout =>
    simp only [Asking.step, Option.ite_none_right_eq_some, Option.some.injEq] at hstep
    obtain ⟨-, rfl⟩ := hstep
    exact h.missed

theorem sound_start (table : List Mapping) (q : Query) :
    Asking.Sound table q { left := q.attempts } where
  calls := fun _ hcall => absurd hcall List.not_mem_nil
  replies := fun _ hreply => absurd hreply List.not_mem_nil
  answer := fun _ hanswer => absurd hanswer (Option.not_mem_none _)

/-- Whatever the network loses, repeats or delays, a question to a portmapper with a fixed table is
answered out of the table or not at all: a lookup finds its port, a registration is refused, and a probe
finds someone home. -/
theorem query_answered_from_table (table : List Mapping) (q : Query) (a : Asking) (answer : Answer)
    (hreach : Reach (Asking.step table q) anyStep { left := q.attempts } a)
    (hanswer : a.answer = some answer) :
    answer = q.expected table ∨ answer = q.unanswered ∨ answer = .error .io := by
  have hsound : a.Sound table q :=
    hreach.invariant (sound_start table q) fun _ _ _ h _ hstep => h.step hstep
  exact hsound.answer answer hanswer

/-- The first probe is lost and the second gets through, with the late reply to the first behind it. -/
theorem probe_answered_at_second_attempt :
    ∃ a answer, exec (Asking.step (servedTable 1024 111) .probe) { left := 2 }
        [.send, .timeout, .send, .arriveCall 1, .arriveReply 0, .arriveCall 0] = some a ∧
      a.answer = some answer ∧ answer = .home true ∧
      (answer = Query.expected (servedTable 1024 111) .probe ∨ answer = Query.unanswered .probe ∨
        answer = .error .io) := by
  obtain ⟨a, hexec, hanswer⟩ : ∃ a, exec (Asking.step (servedTable 1024 111) .probe) { left := 2 }
      [.send, .timeout, .send, .arriveCall 1, .arriveReply 0, .arriveCall 0] = some a ∧
        a.answer = some (.home true) :=
    ⟨_, rfl, rfl⟩
  exact ⟨a, _, hexec, hanswer, rfl,
    query_answered_from_table _ .probe a _ (.of_exec hexec) hanswer⟩

end

section
variable {table : List Mapping} {stream after : Stream} {record : List UInt8} {ending : StreamEnd}
open CoreChannel (FramedRecord readRecord_framed readRecord_tooLong)

/-- What a connection writes for a record, if it goes on after it. -/
def written (table : List Mapping) (record : List UInt8) : Option (List UInt8) :=
  if record.length ≤ datagramMax then (dispatch table record).bind writeRecord else none

theorem serveConnection_end (h : ∀ result, readRecord datagramMax stream ≠ .ok (some result)) :
    serveConnection table stream = [] := by
  rw [serveConnection]
  split
  · rfl
  · rfl
  · rename_i heq
    exact absurd heq (h _)

theorem serveConnection_record (h : readRecord datagramMax stream = .ok (some (record, after))) :
    serveConnection table stream = match (dispatch table record).bind writeRecord with
      | none => []
      | some written => written ++ serveConnection table after := by
  rw [serveConnection]
  split <;> rename_i heq <;> rw [h] at heq <;> cases heq
  rfl

/-- A connection answers record after record, however they are split, up to the first that is too long
or that gets no reply, and closes there. -/
theorem serveConnection_framed (table : List Mapping) (sent : List FramedRecord)
    (ending : StreamEnd) :
    serveConnection table ⟨sent.flatMap FramedRecord.bytes, ending⟩ =
      (((sent.map FramedRecord.record).map (written table)).takeWhile
        Option.isSome).reduceOption.flatten := by
  induction sent with
  | nil =>
    refine serveConnection_end fun result h => ?_
    rw [readRecord, readFragments_short (by simp)] at h
    split at h <;> cases h
  | cons framed sent ih =>
    rw [List.flatMap_cons, List.map_cons, List.map_cons]
    by_cases hfits : framed.record.length ≤ datagramMax
    · rw [serveConnection_record (readRecord_framed framed hfits _ _), written, if_pos hfits]
      cases (dispatch table framed.record).bind writeRecord with
      | none => rfl
      | some bytes =>
        rw [ih, List.takeWhile_cons_of_pos rfl, List.reduceOption_cons_of_some, List.flatten_cons]
    · rw [written, if_neg hfits]
      refine serveConnection_end fun result h => ?_
      rw [readRecord_tooLong framed (Nat.lt_of_not_le hfits)] at h
      cases h

theorem encodeDumpReply_length (table : List Mapping) :
    (encodeDumpReply table).length = 20 * table.length + 4 := by
  induction table with
  | nil => rfl
  | cons m table ih =>
    simp only [encodeDumpReply, List.flatMap_cons, List.length_append, putBool, putU32_length,
      mapping_encode_length, List.length_cons] at ih ⊢
    omega

theorem reply_length (table : List Mapping) (request : Request) :
    (request.reply table).length ≤ 20 * table.length + 28 := by
  have hfound : ∀ found, results table request.args request.procedure = some found →
      found.length ≤ 20 * table.length + 4 := by
    intro found hfound
    cases hprocedure : request.procedure with
    | getport =>
      rw [hprocedure, results] at hfound
      split at hfound
      · obtain rfl := Option.some.inj hfound
        rw [encodeGetportReply, putU32_length]
        omega
      · cases hfound
    | dump =>
      rw [hprocedure] at hfound
      obtain rfl := Option.some.inj hfound
      exact (encodeDumpReply_length table).le
    | set | unset =>
      rw [hprocedure] at hfound
      obtain rfl := Option.some.inj hfound
      rw [putBool, putU32_length]
      omega
    | null | callit =>
      rw [hprocedure] at hfound
      obtain rfl := Option.some.inj hfound
      exact Nat.zero_le _
  rw [Request.reply]
  cases hresults : results table request.args request.procedure with
  | some found =>
    have hlength := hfound found hresults
    change (accepted request.xid success ++ found).length ≤ _
    rw [List.length_append, CoreChannel.accepted_length]
    omega
  | none =>
    rw [replyGarbageArgs, CoreChannel.accepted_length]
    omega

theorem mapM_writeRecord {records : List (List UInt8)}
    (h : ∀ record ∈ records, record.length ≤ 0x7FFFFFFF) :
    records.mapM writeRecord = some (records.map (fragment true)) := by
  induction records with
  | nil => rfl
  | cons record records ih =>
    rw [List.forall_mem_cons] at h
    have hwrite : writeRecord record = some (fragment true record) :=
      if_neg (Nat.not_lt.mpr h.1)
    simp [List.mapM_cons, hwrite, ih h.2]

/-- A client that sends calls over a connection, split as it likes, reads one reply to each of them in
their order, and each reply is the table's. -/
theorem connection_answers_calls (table : List Mapping) (htable : table.length ≤ 1000000)
    (sent : List FramedRecord) (requests : List Request)
    (hsent : sent.map FramedRecord.record = requests.map Request.record)
    (hsize : ∀ request ∈ requests, request.record.length ≤ datagramMax) :
    ∃ replies, readRecords recordMax
        ⟨serveConnection table ⟨sent.flatMap FramedRecord.bytes, .eof⟩, .eof⟩ = .ok replies ∧
      List.Forall₂ (fun request reply =>
        decodeReply reply request.xid = .ok (Request.body table request)) requests replies := by
  have hmax : recordMax = 33554432 := rfl
  have hreplies : ∀ reply ∈ requests.map (Request.reply table), reply.length ≤ recordMax := by
    intro reply hreply
    obtain ⟨request, -, rfl⟩ := List.mem_map.mp hreply
    have hlength := reply_length table request
    omega
  have hlarge : ∀ reply ∈ requests.map (Request.reply table), reply.length ≤ 0x7FFFFFFF :=
    fun reply hreply => (hreplies reply hreply).trans (by decide)
  have hall : (requests.map Request.record).map (written table) =
      ((requests.map (Request.reply table)).map (fragment true)).map some := by
    simp only [List.map_map]
    refine List.map_congr_left fun request hrequest => ?_
    have hreply := hlarge (request.reply table) (List.mem_map_of_mem hrequest)
    rw [Function.comp_apply, written, if_pos (hsize request hrequest), request.dispatch_record]
    exact if_neg (Nat.not_lt.mpr hreply)
  have hreduce (l : List (List UInt8)) : (l.map some).reduceOption = l := by
    simp [List.reduceOption, List.filterMap_map]
  obtain ⟨bytes, hwritten, hread⟩ := readRecords_written hreplies hlarge
  rw [mapM_writeRecord hlarge, Option.some.injEq] at hwritten
  refine ⟨requests.map (Request.reply table), ?_, ?_⟩
  · rw [serveConnection_framed, hsent, hall, List.takeWhile_eq_self_iff.mpr ?_, hreduce]
    · rw [hwritten]
      exact hread
    · intro reply hreply
      obtain ⟨bytes, -, rfl⟩ := List.mem_map.mp hreply
      rfl
  · rw [List.forall₂_map_right_iff, List.forall₂_same]
    exact fun request _ => request.decodeReply_reply table

/-- A lookup of the core channel and a dump, over one connection. -/
theorem lookup_and_dump_answered :
    ∃ (sent : List FramedRecord) (requests : List Request) (replies : List (List UInt8)),
      requests.map (Request.body (servedTable 1024 111)) =
        [.success (putU32 1024), .success (encodeDumpReply (servedTable 1024 111))] ∧
      readRecords recordMax ⟨serveConnection (servedTable 1024 111)
        ⟨sent.flatMap FramedRecord.bytes, .eof⟩, .eof⟩ = .ok replies ∧
      List.Forall₂ (fun request reply => decodeReply reply request.xid =
        .ok (Request.body (servedTable 1024 111) request)) requests replies := by
  let lookup : Request := ⟨1, .getport, (coreMapping 0).encode, by decide⟩
  let dump : Request := ⟨2, .dump, [], by decide⟩
  let sent : List FramedRecord :=
    [.call 1 pmapProg pmapVers 3 (coreMapping 0).encode (by decide),
      .call 2 pmapProg pmapVers 4 [] (by decide)]
  obtain ⟨replies, hread, hreplies⟩ :=
    connection_answers_calls (servedTable 1024 111) (by decide) sent [lookup, dump] rfl (by decide)
  exact ⟨sent, [lookup, dump], replies, rfl, hread, hreplies⟩

end
end Ugpibd.Vxi11.Portmap
