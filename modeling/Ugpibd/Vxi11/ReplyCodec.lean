import Ugpibd.Vxi11.Calls
import Ugpibd.Vxi11.StrictDecoding

/-! RPC replies: how the server encodes each kind, how a client reads one, and which records begin a
call at all. -/
namespace Ugpibd.Vxi11.Rpc
open Library Xdr

def replyType : UInt32 := 1
def msgAccepted : UInt32 := 0
def msgDenied : UInt32 := 1
def success : UInt32 := 0
def progUnavail : UInt32 := 1
def progMismatch : UInt32 := 2
def procUnavail : UInt32 := 3
def garbageArgs : UInt32 := 4
def rpcMismatch : UInt32 := 0

/-- The header of every accepted reply, up to its status. -/
def accepted (xid stat : UInt32) : List UInt8 :=
  [putU32 xid, putU32 replyType, putU32 msgAccepted, putU32 authNone, putOpaque [], putU32 stat].flatten

def replySuccess (xid : UInt32) (results : List UInt8) : List UInt8 := accepted xid success ++ results
def replyProgUnavail (xid : UInt32) : List UInt8 := accepted xid progUnavail
def replyProgMismatch (xid low high : UInt32) : List UInt8 :=
  accepted xid progMismatch ++ (putU32 low ++ putU32 high)
def replyProcUnavail (xid : UInt32) : List UInt8 := accepted xid procUnavail
def replyGarbageArgs (xid : UInt32) : List UInt8 := accepted xid garbageArgs

/-- The reply to a call in another version of the protocol, with the one spoken here. -/
def replyRpcMismatch (xid : UInt32) : List UInt8 :=
  [putU32 xid, putU32 replyType, putU32 msgDenied, putU32 rpcMismatch, putU32 rpcVersion,
    putU32 rpcVersion].flatten

/-- What a reply said. -/
inductive ReplyBody
  | success (results : List UInt8)
  | accepted (stat : UInt32)
  | denied (stat : UInt32)
  deriving DecidableEq, Repr

/-- Why a record is not the awaited reply. -/
inductive ReplyError
  | garbled (e : XdrError)
  | wrongXid (got expected : UInt32)
  | notAReply (mtype : UInt32)
  deriving DecidableEq, Repr

/-- A field of a reply. -/
def inReply {α : Type} (cursor : Cursor α) : Reader ReplyError α := fun data =>
  (cursor.run data).mapError .garbled

def replyBody (expectXid : UInt32) : Reader ReplyError ReplyBody := do
  let xid ← inReply Cursor.u32
  if xid ≠ expectXid then throw (.wrongXid xid expectXid)
  let mtype ← inReply Cursor.u32
  if mtype ≠ replyType then throw (.notAReply mtype)
  let stat ← inReply Cursor.u32
  if stat = msgAccepted then
    let _ ← inReply Cursor.u32
    let _ ← inReply (Cursor.byteString authBodyMax)
    let stat ← inReply Cursor.u32
    if stat = Rpc.success then return .success (← get) else return .accepted stat
  else if stat = msgDenied then return .denied (← inReply Cursor.u32)
  else throw (.notAReply stat)

def decodeReply (record : List UInt8) (expectXid : UInt32) : Except ReplyError ReplyBody :=
  ((replyBody expectXid).run record).map Prod.fst

/-- The record carries the xid and a client that waits for it takes it for its reply. -/
structure AcceptedFor (xid : UInt32) (reply : List UInt8) : Prop where
  carries : putU32 xid <+: reply
  decoded : ∃ body, decodeReply reply xid = .ok body

/-- A credential or a verifier on the wire, with any padding. -/
def IsAuth (bytes : List UInt8) : Prop :=
  ∃ flavor body padding, body.length ≤ authBodyMax.toNat ∧ padding.length = padOf body.length ∧
    bytes = putU32 flavor ++ (putU32 (UInt32.ofNat body.length) ++ body ++ padding)

/-- The record begins with the xid and the type of a call, followed by another version of the
protocol or by this one and a complete header. -/
def BeginsCall (xid : UInt32) (record : List UInt8) : Prop :=
  (∃ vers rest, vers ≠ rpcVersion ∧
    record = putU32 xid ++ (putU32 callType ++ (putU32 vers ++ rest))) ∨
  ∃ prog vers proc cred verf args, IsAuth cred ∧ IsAuth verf ∧
    record = putU32 xid ++ (putU32 callType ++ (putU32 rpcVersion ++ (putU32 prog ++
      (putU32 vers ++ (putU32 proc ++ (cred ++ (verf ++ args)))))))

section
variable {xid stat : UInt32} {rest record : List UInt8}

theorem inReply_run {α : Type} {cursor : Cursor α} {bytes : List UInt8} {a : α}
    (h : Reads .truncated cursor bytes a) (rest : List UInt8) :
    (inReply cursor).run (bytes ++ rest) = .ok (a, rest) := by
  change (cursor.run _).mapError _ = _
  rw [h.whole]
  rfl

theorem accepted_eq (xid stat : UInt32) (rest : List UInt8) : accepted xid stat ++ rest =
    putU32 xid ++ (putU32 replyType ++ (putU32 msgAccepted ++ (putU32 authNone ++
      (putOpaque [] ++ (putU32 stat ++ rest))))) := by
  simp [accepted]

/-- What a client makes of an accepted reply. -/
theorem decodeReply_accepted (xid stat : UInt32) (rest : List UInt8) :
    decodeReply (accepted xid stat ++ rest) xid =
      .ok (if stat = success then .success rest else .accepted stat) := by
  have hbody : (replyBody xid).run (accepted xid stat ++ rest) =
      .ok (if stat = success then .success rest else .accepted stat, rest) := by
    rw [accepted_eq, replyBody, run_bind_ok (inReply_run (Cursor.u32_reads xid) _),
      if_neg (by simp), run_bind_ok (inReply_run (Cursor.u32_reads replyType) _),
      if_neg (by simp), run_bind_ok (inReply_run (Cursor.u32_reads msgAccepted) _), if_pos rfl,
      run_bind_ok (inReply_run (Cursor.u32_reads authNone) _),
      run_bind_ok (inReply_run (Cursor.byteString_reads (Nat.zero_le _)) _),
      run_bind_ok (inReply_run (Cursor.u32_reads stat) _)]
    split_ifs <;> rfl
  rw [decodeReply, hbody]
  rfl

theorem acceptedFor_accepted (xid stat : UInt32) (rest : List UInt8) :
    AcceptedFor xid (accepted xid stat ++ rest) where
  carries := by
    rw [accepted_eq]
    exact List.prefix_append _ _
  decoded := ⟨_, decodeReply_accepted xid stat rest⟩

theorem acceptedFor_rpcMismatch (xid : UInt32) : AcceptedFor xid (replyRpcMismatch xid) := by
  have hreply : replyRpcMismatch xid = putU32 xid ++ (putU32 replyType ++ (putU32 msgDenied ++
      (putU32 rpcMismatch ++ (putU32 rpcVersion ++ putU32 rpcVersion)))) := by
    simp [replyRpcMismatch]
  have hbody : (replyBody xid).run (replyRpcMismatch xid) =
      .ok (.denied rpcMismatch, putU32 rpcVersion ++ putU32 rpcVersion) := by
    rw [hreply, replyBody, run_bind_ok (inReply_run (Cursor.u32_reads xid) _),
      if_neg (by simp), run_bind_ok (inReply_run (Cursor.u32_reads replyType) _),
      if_neg (by simp), run_bind_ok (inReply_run (Cursor.u32_reads msgDenied) _),
      if_neg (by decide), if_pos rfl,
      run_bind_ok (inReply_run (Cursor.u32_reads rpcMismatch) _)]
    rfl
  refine ⟨?_, .denied rpcMismatch, ?_⟩
  · rw [hreply]
    exact List.prefix_append _ _
  · rw [decodeReply, hbody]
    rfl

theorem orGarbled_run {α : Type} {cursor : Cursor α} {bytes : List UInt8} {a : α}
    (h : Reads .truncated cursor bytes a) (rest : List UInt8) :
    (orGarbled cursor).run (bytes ++ rest) = .ok (a, rest) :=
  (orGarbled_reads h).whole rest

/-- A field that reads spells its value; otherwise the record is garbled. -/
theorem orGarbled_cases {α : Type} {cursor : Cursor α} {spelling : α → List UInt8 → Prop}
    (h : Spells .truncated cursor spelling) (data : List UInt8) :
    (∃ e, (orGarbled cursor).run data = .error (.garbled e)) ∨
    ∃ a bytes rest, data = bytes ++ rest ∧ spelling a bytes ∧
      (orGarbled cursor).run data = .ok (a, rest) := by
  change (∃ e, (cursor.run data).mapError _ = _) ∨ ∃ a bytes rest, _ ∧ _ ∧
    (cursor.run data).mapError _ = _
  cases hrun : cursor.run data with
  | error e => exact .inl ⟨e, rfl⟩
  | ok result =>
    obtain ⟨a, rest⟩ := result
    obtain ⟨bytes, hdata, -, hspelled⟩ := h data a rest hrun
    exact .inr ⟨a, bytes, rest, hdata, hspelled, rfl⟩

theorem IsAuth.reads {bytes : List UInt8} (h : IsAuth bytes) :
    ∃ flavor body, ∃ field field', bytes = field ++ field' ∧
      Reads .truncated Cursor.u32 field flavor ∧
      Reads .truncated (Cursor.byteString authBodyMax) field' body := by
  obtain ⟨flavor, body, padding, hmax, hpadding, rfl⟩ := h
  refine ⟨flavor, body, _, _, rfl, Cursor.u32_reads flavor, ?_⟩
  have hread := Cursor.byteString_reads_padded hmax hpadding
  rwa [List.append_nil, ← List.append_assoc] at hread

/-- A credential or a verifier that is skipped was one. -/
theorem isAuth_of_spells {flavor : UInt32} {body bytes : List UInt8}
    (h : ∃ padding, padding.length = padOf body.length ∧ body.length ≤ authBodyMax.toNat ∧
      bytes = putU32 (UInt32.ofNat body.length) ++ body ++ padding) :
    IsAuth (putU32 flavor ++ bytes) := by
  obtain ⟨padding, hpadding, hmax, rfl⟩ := h
  exact ⟨flavor, body, padding, hmax, hpadding, rfl⟩

/-- The part of a header after the version. -/
def headerRest (xid : UInt32) : Cursor CallHeader := do
  let prog ← Cursor.u32
  let vers ← Cursor.u32
  let proc ← Cursor.u32
  let _ ← Cursor.u32
  let _ ← Cursor.byteString authBodyMax
  let _ ← Cursor.u32
  let _ ← Cursor.byteString authBodyMax
  return { xid, prog, vers, proc }

theorem headerRest_spells (xid : UInt32) :
    Spells .truncated (headerRest xid) fun header bytes => header.xid = xid ∧
      ∃ cred verf, IsAuth cred ∧ IsAuth verf ∧ bytes = putU32 header.prog ++
        (putU32 header.vers ++ (putU32 header.proc ++ (cred ++ verf))) := by
  refine Cursor.u32_spells.bind ?_
  rintro prog _ rfl
  refine Cursor.u32_spells.bind ?_
  rintro vers _ rfl
  refine Cursor.u32_spells.bind ?_
  rintro proc _ rfl
  refine Cursor.u32_spells.bind ?_
  rintro flavor _ rfl
  refine (Cursor.byteString_spells _).bind ?_
  intro body cred hcred
  refine Cursor.u32_spells.bind ?_
  rintro flavor' _ rfl
  refine (Cursor.byteString_spells _).bind ?_
  intro body' verf hverf
  refine spells_pure ⟨rfl, putU32 flavor ++ cred, putU32 flavor' ++ verf, isAuth_of_spells hcred,
    isAuth_of_spells hverf, ?_⟩
  simp only [List.append_assoc, List.append_nil]

theorem decodeCall_version (xid : UInt32) (rest : List UInt8) :
    decodeCall (putU32 xid ++ (putU32 callType ++ (putU32 rpcVersion ++ rest))) =
      (orGarbled (headerRest xid)).run rest := by
  rw [decodeCall, callHeader, run_bind_ok (orGarbled_run (Cursor.u32_reads xid) _),
    run_bind_ok (orGarbled_run (Cursor.u32_reads callType) _), if_neg (by simp),
    run_bind_ok (orGarbled_run (Cursor.u32_reads rpcVersion) _), if_neg (by simp)]
  rfl

theorem decodeCall_otherVersion {vers : UInt32} (h : vers ≠ rpcVersion) (xid : UInt32)
    (rest : List UInt8) :
    decodeCall (putU32 xid ++ (putU32 callType ++ (putU32 vers ++ rest))) =
      .error (.rpcVersion xid vers) := by
  rw [decodeCall, callHeader, run_bind_ok (orGarbled_run (Cursor.u32_reads xid) _),
    run_bind_ok (orGarbled_run (Cursor.u32_reads callType) _), if_neg (by simp),
    run_bind_ok (orGarbled_run (Cursor.u32_reads vers) _), if_pos h]
  rfl

/-- How a record is taken: as one that begins a call, or as none. -/
inductive Taken (record : List UInt8) : Prop
  | version {xid vers : UInt32} : BeginsCall xid record →
      decodeCall record = .error (.rpcVersion xid vers) → Taken record
  | call {header : CallHeader} {args : List UInt8} : BeginsCall header.xid record →
      decodeCall record = .ok (header, args) → Taken record
  | garbled {e : XdrError} : decodeCall record = .error (.garbled e) → Taken record
  | notACall {xid : UInt32} : decodeCall record = .error (.notACall xid) → Taken record

theorem taken (record : List UInt8) : Taken record := by
  rcases orGarbled_cases Cursor.u32_spells record with ⟨e, hxid⟩ | ⟨xid, _, rest, rfl, rfl, hxid⟩
  · exact .garbled (by rw [decodeCall, callHeader, run_bind_error hxid])
  rcases orGarbled_cases Cursor.u32_spells rest with ⟨e, htype⟩ | ⟨mtype, _, rest, rfl, rfl, htype⟩
  · exact .garbled (by rw [decodeCall, callHeader, run_bind_ok hxid, run_bind_error htype])
  by_cases hcall : mtype ≠ callType
  · have hdecode : decodeCall (putU32 xid ++ (putU32 mtype ++ rest)) = .error (.notACall xid) := by
      rw [decodeCall, callHeader, run_bind_ok hxid, run_bind_ok htype, if_pos hcall]
      rfl
    exact .notACall hdecode
  obtain rfl : mtype = callType := not_not.mp hcall
  rcases orGarbled_cases Cursor.u32_spells rest with ⟨e, hvers⟩ | ⟨vers, _, rest, rfl, rfl, hvers⟩
  · exact .garbled (by
      rw [decodeCall, callHeader, run_bind_ok hxid, run_bind_ok htype, if_neg hcall,
        run_bind_error hvers])
  by_cases hversion : vers ≠ rpcVersion
  · exact .version (.inl ⟨vers, rest, hversion, rfl⟩) (decodeCall_otherVersion hversion xid rest)
  obtain rfl : vers = rpcVersion := not_not.mp hversion
  have hrun := decodeCall_version xid rest
  rcases orGarbled_cases (headerRest_spells xid) rest with
    ⟨e, hheader⟩ | ⟨header, _, args, rfl, ⟨rfl, cred, verf, hcred, hverf, rfl⟩, hheader⟩
  · exact .garbled (hrun.trans hheader)
  · refine .call (.inr ⟨header.prog, header.vers, header.proc, cred, verf, args, hcred, hverf, ?_⟩)
      (hrun.trans hheader)
    simp only [List.append_assoc]

/-- A record that begins a call is taken for one, with its xid. -/
theorem BeginsCall.decodeCall (h : BeginsCall xid record) :
    (∃ vers, decodeCall record = .error (.rpcVersion xid vers)) ∨
    ∃ header args, header.xid = xid ∧ decodeCall record = .ok (header, args) := by
  rcases h with ⟨vers, rest, hvers, rfl⟩ | ⟨prog, vers, proc, cred, verf, args, hcred, hverf, rfl⟩
  · exact .inl ⟨vers, decodeCall_otherVersion hvers xid rest⟩
  · obtain ⟨flavor, body, credFlavor, credBody, rfl, hflavor, hbody⟩ := hcred.reads
    obtain ⟨flavor', body', verfFlavor, verfBody, rfl, hflavor', hbody'⟩ := hverf.reads
    have hheader : Reads .truncated (headerRest xid)
        (putU32 prog ++ (putU32 vers ++ (putU32 proc ++
          (credFlavor ++ (credBody ++ (verfFlavor ++ (verfBody ++ [])))))))
        { xid, prog, vers, proc } := by
      refine (Cursor.u32_reads prog).bind ?_
      refine (Cursor.u32_reads vers).bind ?_
      refine (Cursor.u32_reads proc).bind ?_
      refine hflavor.bind ?_
      refine hbody.bind ?_
      refine hflavor'.bind ?_
      refine hbody'.bind ?_
      exact reads_pure _ _
    refine .inr ⟨{ xid, prog, vers, proc }, args, rfl, ?_⟩
    rw [decodeCall_version]
    have hrun := orGarbled_run hheader args
    simpa only [List.append_assoc, List.append_nil, List.nil_append] using hrun

/-- No record begins two calls. -/
theorem BeginsCall.xid_eq {xid' : UInt32} (h : BeginsCall xid record) (h' : BeginsCall xid' record) :
    xid = xid' := by
  rcases h.decodeCall with ⟨vers, hcall⟩ | ⟨header, args, hxid, hcall⟩
  · rcases h'.decodeCall with ⟨vers', hcall'⟩ | ⟨header', args', -, hcall'⟩
    · rw [hcall] at hcall'
      cases hcall'
      rfl
    · rw [hcall] at hcall'
      cases hcall'
  · rcases h'.decodeCall with ⟨vers', hcall'⟩ | ⟨header', args', hxid', hcall'⟩
    · rw [hcall] at hcall'
      cases hcall'
    · rw [hcall] at hcall'
      cases hcall'
      exact hxid.symm.trans hxid'

theorem isAuth_none : IsAuth (putU32 authNone ++ putOpaque []) :=
  ⟨authNone, [], [], Nat.zero_le _, rfl, by simp [putOpaque, padOf]⟩

theorem beginsCall_encodeCall (xid prog vers proc : UInt32) (args : List UInt8) :
    BeginsCall xid (encodeCall xid prog vers proc args) := by
  refine .inr ⟨prog, vers, proc, _, _, args, isAuth_none, isAuth_none, ?_⟩
  simp [encodeCall, encodeHeader]

end
end Ugpibd.Vxi11.Rpc
