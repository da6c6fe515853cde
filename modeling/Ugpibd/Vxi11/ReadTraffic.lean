import Ugpibd.Vxi11.TransferLog

/-! What a `device_read` asks the backend for, and what it answers with. -/
namespace Ugpibd.Vxi11.BusSettings
open Library Backend Messages DataCalls

namespace Receive

variable {C P E : Type}

/-- The bytes the backend gave, none where it failed. -/
def chunk (r : Receive P) : List UInt8 := match r.result with
  | some (.ok received) => received.data
  | _ => []

/-- Did the chunk end the message? -/
def ended (r : Receive P) : Bool := match r.result with
  | some (.ok received) => received.ended
  | _ => false

/-- Asked for a byte or more, the backend gave no more than that. -/
def Honest (r : Receive P) : Prop := 1 ≤ r.maxLen → r.chunk.length ≤ r.maxLen

instance (r : Receive P) : Decidable r.Honest :=
  inferInstanceAs (Decidable (1 ≤ r.maxLen → r.chunk.length ≤ r.maxLen))

def request (r : Receive P) : BusRequest Received := match r.pad with
  | some pad => .read pad r.maxLen
  | none => .readUnaddressed r.maxLen

/-- The backend, asked so, may well give that. -/
def Genuine (backend : GpibBackend C P E) (inputs : PollInputs) (r : Receive P) : Prop :=
  ∃ port, r.result = ((backend.request inputs r.request).exec port).1 ∧
    r.passed = Operation.sentBy (backend.request inputs r.request) port

end Receive

variable {P : Type}

/-- Did the last chunk end the message? -/
def lastEnded (receives : List (Receive P)) : Bool := receives.getLast?.any Receive.ended

/-- With so many bytes already, each read asks for what is still missing, and there is something
missing. -/
def AsksRest (clamped : Nat) : Nat → List (Receive P) → Prop
  | _, [] => True
  | got, r :: receives =>
    got < clamped ∧ r.maxLen = clamped - got ∧ AsksRest clamped (got + r.chunk.length) receives

/-- The reads of a call that has so many bytes already. -/
structure ReadTraffic (call : ReadCall) (data : List UInt8) (receives : List (Receive P)) : Prop where
  asked : AsksRest call.clamped data.length receives
  bounded : (data ++ receives.flatMap Receive.chunk).length ≤ call.clamped

/-- The reply after such reads. An I/O error has none of the data. -/
structure ReadAnswer (call : ReadCall) (data : List UInt8) (receives : List (Receive P))
    (reply : ReadReply) : Prop where
  whole : reply.error ≠ .ioError → reply.data = data ++ receives.flatMap Receive.chunk
  failed : reply.error = .ioError → reply.data = []
  reasons : reply.error = .noError → receives ≠ [] ∧
    reply.reason = call.reason reply.data (lastEnded receives) ∧
    (reply.reason ≠ 0 ∨ reply.data.length = call.clamped)
  unreasoned : reply.error ≠ .noError → reply.reason = 0

variable {call : ReadCall} {data : List UInt8} {r : Receive P} {receives : List (Receive P)}
  {reply : ReadReply}

theorem readTraffic_nil (h : data.length ≤ call.clamped) :
    ReadTraffic call data ([] : List (Receive P)) where
  asked := trivial
  bounded := by simpa using h

theorem ReadTraffic.cons (h : ReadTraffic call (data ++ r.chunk) receives)
    (hdata : data.length < call.clamped) (hasked : r.maxLen = call.clamped - data.length) :
    ReadTraffic call data (r :: receives) where
  asked := ⟨hdata, hasked, by simpa using h.asked⟩
  bounded := by simpa [List.append_assoc] using h.bounded

theorem ReadAnswer.cons {longer : List UInt8} (h : ReadAnswer call longer receives reply)
    (hlonger : longer = data ++ r.chunk) : ReadAnswer call data (r :: receives) reply where
  whole herror := by simpa [hlonger, List.append_assoc] using h.whole herror
  failed := h.failed
  reasons herror := by
    obtain ⟨hne, hreason⟩ := h.reasons herror
    have hsame : lastEnded (r :: receives) = lastEnded receives := by
      obtain ⟨first, rest, rfl⟩ := List.exists_cons_of_ne_nil hne
      rfl
    rw [hsame]
    exact ⟨List.cons_ne_nil _ _, hreason⟩
  unreasoned := h.unreasoned

/-- A reply that is not about a chunk. -/
theorem readAnswer_stopped (herror : reply.error = .abort ∨ reply.error = .ioTimeout)
    (hreason : reply.reason = 0) (hdata : reply.data = data) :
    ReadAnswer call data ([] : List (Receive P)) reply where
  whole _ := by simpa using hdata
  failed hio := by rw [hio] at herror; simp at herror
  reasons hno := by rw [hno] at herror; simp at herror
  unreasoned _ := hreason

/-- The next read of a call that has so many bytes. -/
def nextReceive (call : ReadCall) (data : List UInt8) (result : Option (Except Text Received))
    (passed : List P) : Receive P where
  pad := if call.interface then none else some call.pad
  maxLen := min (remainingLen call data) maxRead
  result := result
  passed := passed

variable {result : Option (Except Text Received)} {passed : List P}

theorem nextReceive_maxLen (h : data.length < call.clamped) :
    (nextReceive call data result passed).maxLen = call.clamped - data.length := by
  have hclamped := call.clamped_le
  have hmax : maxRead = 65536 := rfl
  simp only [nextReceive, remainingLen]
  omega

theorem nextReceive_bounded (h : data.length < call.clamped)
    (hhonest : (nextReceive call data result passed).Honest) :
    (data ++ (nextReceive call data result passed).chunk).length ≤ call.clamped := by
  have hmax : (nextReceive call data result passed).maxLen = _ := nextReceive_maxLen h
  have hchunk := hhonest (by omega)
  rw [List.length_append]
  omega

/-- A chunk that is a reason to end, or that fills the buffer. -/
theorem readAnswer_done {received : Received}
    (h : call.reason (data ++ received.data) received.ended ≠ 0 ∨
      (data ++ received.data).length = call.clamped) :
    ReadAnswer call data [nextReceive call data (some (.ok received)) passed]
      ⟨.noError, call.reason (data ++ received.data) received.ended, data ++ received.data⟩ where
  whole _ := by simp [nextReceive, Receive.chunk]
  failed := nofun
  reasons _ := ⟨List.cons_ne_nil _ _, rfl, h⟩
  unreasoned hno := absurd rfl hno

theorem readAnswer_failed :
    ReadAnswer call data [nextReceive call data result passed] ⟨.ioError, 0, []⟩ where
  whole hio := absurd rfl hio
  failed _ := rfl
  reasons := nofun
  unreasoned _ := rfl

variable {C E : Type} {backend : GpibBackend C P E} {inputs : PollInputs} {config : Config}
  {looks : List Look} {log : List (Transfer P)}

/-- The log has one more read, this one. -/
def Logs (backend : GpibBackend C P E) (inputs : PollInputs) (call : ReadCall) (data : List UInt8)
    (log : List (Transfer P)) (result : Option (Except Text Received)) (now : List (Transfer P)) : Prop :=
  ∃ passed, now = log ++ [.receive (nextReceive call data result passed)] ∧
    (nextReceive call data result passed).Genuine backend inputs

/-- What the loop asks the backend for. -/
def sliceRequest (call : ReadCall) (data : List UInt8) : BusRequest Received :=
  if call.interface then .readUnaddressed (min (remainingLen call data) maxRead)
  else .read call.pad (min (remainingLen call data) maxRead)

theorem nextReceive_request :
    (nextReceive call data result passed).request = sliceRequest call data := by
  unfold nextReceive Receive.request sliceRequest
  cases call.interface <;> rfl

theorem entryOf_sliceRequest (port : Port C P E) :
    entryOf backend inputs (sliceRequest call data) port = [.receive (nextReceive call data
      ((backend.request inputs (sliceRequest call data)).exec port).1
      (Operation.sentBy (backend.request inputs (sliceRequest call data)) port))] := by
  unfold nextReceive sliceRequest
  cases call.interface <;> rfl

/-- The read is logged as it is asked for. -/
theorem readSlice_logs :
    Interruptible.Ends (fun held => held.port.ctrl.2 = log)
      (readSlice (logged backend) inputs call data)
      (fun result held => Logs backend inputs call data log (some result) held.port.ctrl.2)
      (fun held => Logs backend inputs call data log none held.port.ctrl.2) := by
  refine receive_logs (r := sliceRequest call data) (L := Logs backend inputs call data log)
    fun port => ?_
  refine ⟨Operation.sentBy (backend.request inputs (sliceRequest call data)) port, ?_, port, ?_⟩
  · rw [entryOf_sliceRequest]
  · rw [nextReceive_request]
    exact ⟨rfl, rfl⟩

/-- The reads since the log was so long. -/
structure DidRead (backend : GpibBackend C P E) (inputs : PollInputs) (call : ReadCall)
    (data : List UInt8) (log now : List (Transfer P)) (receives : List (Receive P)) : Prop where
  logged : now = log ++ receives.map .receive
  genuine : ∀ r ∈ receives, r.Genuine backend inputs
  traffic : data.length < call.clamped → (∀ r ∈ receives, r.Honest) → ReadTraffic call data receives

variable {now : List (Transfer P)}

theorem didRead_nil (h : now = log) : DidRead backend inputs call data log now [] where
  logged := by simpa using h
  genuine := nofun
  traffic hdata _ := readTraffic_nil hdata.le

/-- A read that is the last. -/
theorem didRead_last (hlog : now = log ++ [.receive (nextReceive call data result passed)])
    (hgenuine : (nextReceive call data result passed).Genuine backend inputs) :
    DidRead backend inputs call data log now [nextReceive call data result passed] where
  logged := hlog
  genuine := List.forall_mem_singleton.mpr hgenuine
  traffic hdata hhonest :=
    (readTraffic_nil (nextReceive_bounded hdata (hhonest _ List.mem_cons_self))).cons hdata
      (nextReceive_maxLen hdata)

/-- A read after which the loop goes on. -/
theorem DidRead.after {longer : List UInt8}
    (h : DidRead backend inputs call longer (log ++ [.receive (nextReceive call data result passed)])
      now receives)
    (hgenuine : (nextReceive call data result passed).Genuine backend inputs)
    (hlonger : longer = data ++ (nextReceive call data result passed).chunk)
    (hmore : (nextReceive call data result passed).chunk = [] ∨ longer.length ≠ call.clamped) :
    DidRead backend inputs call data log now (nextReceive call data result passed :: receives) where
  logged := by simpa using h.logged
  genuine := List.forall_mem_cons.mpr ⟨hgenuine, h.genuine⟩
  traffic hdata hhonest := by
    obtain ⟨hfirst, hrest⟩ := List.forall_mem_cons.mp hhonest
    have hbounded := nextReceive_bounded hdata hfirst
    have hlt : longer.length < call.clamped := by
      rcases hmore with hnone | hmore
      · rw [hlonger, hnone, List.append_nil]
        exact hdata
      · rw [← hlonger] at hbounded
        exact lt_of_le_of_ne hbounded hmore
    have htraffic := h.traffic hlt hrest
    rw [hlonger] at htraffic
    exact htraffic.cons hdata (nextReceive_maxLen hdata)

theorem readLoop_traffic :
    Interruptible.Ends (fun held => held.port.ctrl.2 = log)
      (readLoop (logged backend) inputs call looks data)
      (fun reply held => ∃ receives, DidRead backend inputs call data log held.port.ctrl.2 receives ∧
        ReadAnswer call data receives reply)
      (fun held => ∃ receives, DidRead backend inputs call data log held.port.ctrl.2 receives) := by
  induction looks generalizing data log with
  | nil => exact fun held hlog => ⟨[], didRead_nil hlog⟩
  | cons look looks ih =>
    have hstopped : ∀ {reply : ReadReply}, ReadAnswer call data ([] : List (Receive P)) reply →
        ∀ held : Held (C × List (Transfer P)) P E, held.port.ctrl.2 = log →
        ∃ receives, DidRead backend inputs call data log held.port.ctrl.2 receives ∧
          ReadAnswer call data receives reply :=
      fun hreply held hlog => ⟨[], didRead_nil hlog, hreply⟩
    unfold readLoop
    split
    · exact Interruptible.Ends.pure (hstopped (readAnswer_stopped (.inl rfl) rfl rfl))
    split
    · exact Interruptible.Ends.pure (hstopped (readAnswer_stopped (.inr rfl) rfl rfl))
    refine (setTimeout_logs (L := (· = log))).bind fun _ => ?_
    refine (readSlice_logs.imp (fun _ h => h) (fun _ _ h => h) fun held hlogs => ?_).bind
      fun attempt => ?_
    · obtain ⟨passed, hlog, hgenuine⟩ := hlogs
      exact ⟨_, didRead_last hlog hgenuine⟩
    -- the read is the first of those the rest of the loop makes
    intro held hlogs
    obtain ⟨passed, hlog, hgenuine⟩ := hlogs
    revert held
    cases attempt with
    | ok received =>
      dsimp only
      split
      · rename_i hdone
        exact Interruptible.Ends.pure fun held hlog =>
          ⟨_, didRead_last hlog hgenuine, readAnswer_done hdone⟩
      · rename_i hmore
        obtain ⟨-, hlength⟩ := not_or.mp hmore
        refine ih.imp (fun _ h => h) ?_ ?_
        · rintro reply held ⟨receives, hdid, hanswer⟩
          exact ⟨_, hdid.after hgenuine rfl (.inr hlength), hanswer.cons rfl⟩
        · rintro held ⟨receives, hdid⟩
          exact ⟨_, hdid.after hgenuine rfl (.inr hlength)⟩
    | error e =>
      dsimp only
      split
      · -- nothing was received, so the data is as it was
        have hsame : data = data ++ (nextReceive call data (some (.error e)) passed).chunk :=
          (List.append_nil data).symm
        refine ih.imp (fun _ h => h) ?_ ?_
        · rintro reply held ⟨receives, hdid, hanswer⟩
          exact ⟨_, hdid.after hgenuine hsame (.inl rfl), hanswer.cons hsame⟩
        · rintro held ⟨receives, hdid⟩
          exact ⟨_, hdid.after hgenuine hsame (.inl rfl)⟩
      · exact Interruptible.Ends.pure fun held hlog => ⟨_, didRead_last hlog hgenuine, readAnswer_failed⟩

theorem asU32_eq_noError {e : ErrorCode} (h : e.asU32 = ErrorCode.noError.asU32) : e = .noError := by
  cases e with
  | noError => rfl
  | _ => exact absurd h (by decide)

theorem asU32_eq_ioError {e : ErrorCode} (h : e.asU32 = ErrorCode.ioError.asU32) : e = .ioError := by
  cases e with
  | ioError => rfl
  | _ => exact absurd h (by decide)

/-- The bits of a reason are its flags. -/
theorem reason_bits (ended terminated counted : Prop) [Decidable ended] [Decidable terminated]
    [Decidable counted] :
    let reason := UInt32.ofNat ((if ended then rxEnd else 0) + (if terminated then rxChr else 0) +
      (if counted then rxReqcnt else 0))
    (reason &&& 4 ≠ 0 ↔ ended) ∧ (reason &&& 2 ≠ 0 ↔ terminated) ∧ (reason &&& 1 ≠ 0 ↔ counted) := by
  by_cases hended : ended <;> by_cases hterminated : terminated <;> by_cases hcounted : counted <;>
    simp only [hended, hterminated, hcounted, if_true, if_false] <;> decide

/-- What a reply without error says of the data: END, CHR and REQCNT, and one of them at least unless
the buffer of the daemon is full and the caller's is not. -/
structure Reasoned (parms : DeviceReadParms) (receives : List (Receive P)) (resp : DeviceReadResp) :
    Prop where
  some_or_full : resp.reason ≠ 0 ∨
    resp.data.length = maxRead ∧ maxRead < parms.requestSize.toNat
  end_iff : resp.reason &&& 4 ≠ 0 ↔ lastEnded receives = true
  chr_iff : resp.reason &&& 2 ≠ 0 ↔
    (termchr parms).isSome ∧ resp.data.getLast? = termchr parms
  reqcnt_iff : resp.reason &&& 1 ≠ 0 ↔ resp.data.length = parms.requestSize.toNat

/-- The answer to a read whose reads of the bus were these. -/
structure ReadReport (parms : DeviceReadParms) (receives : List (Receive P)) (resp : DeviceReadResp) :
    Prop where
  bounded : resp.data.length ≤ min parms.requestSize.toNat maxRead
  whole : resp.error ≠ ErrorCode.ioError.asU32 → resp.data = receives.flatMap Receive.chunk
  failed : resp.error = ErrorCode.ioError.asU32 → resp.data = []
  reasoned : resp.error = ErrorCode.noError.asU32 → Reasoned parms receives resp
  unreasoned : resp.error ≠ ErrorCode.noError.asU32 → resp.reason = 0

theorem reasoned_resp {link : Link} {parms : DeviceReadParms} {hsize : parms.requestSize ≠ 0}
    (hreason : reply.reason = (readCall link parms hsize).reason reply.data (lastEnded receives))
    (hdone : reply.reason ≠ 0 ∨ reply.data.length = (readCall link parms hsize).clamped) :
    Reasoned parms receives reply.resp := by
  obtain ⟨hend, hchr, hreqcnt⟩ := reason_bits (lastEnded receives = true)
    ((termchr parms).isSome ∧ reply.data.getLast? = termchr parms)
    (reply.data.length = parms.requestSize.toNat)
  have hresp : reply.resp.reason = UInt32.ofNat ((if lastEnded receives = true then rxEnd else 0) +
      (if (termchr parms).isSome ∧ reply.data.getLast? = termchr parms then rxChr else 0) +
      (if reply.data.length = parms.requestSize.toNat then rxReqcnt else 0)) :=
    congrArg UInt32.ofNat hreason
  rw [← hresp] at hend hchr hreqcnt
  refine ⟨?_, hend, hchr, hreqcnt⟩
  by_cases hzero : reply.resp.reason = 0
  · rw [hzero] at hend hchr hreqcnt
    have hended : ¬lastEnded receives = true := fun h => hend.mpr h rfl
    have hterminated : ¬((termchr parms).isSome ∧ reply.data.getLast? = termchr parms) :=
      fun h => hchr.mpr h rfl
    have hcounted : ¬reply.data.length = parms.requestSize.toNat := fun h => hreqcnt.mpr h rfl
    have hnone : reply.reason = 0 := by
      rw [hreason]
      change (if lastEnded receives = true then rxEnd else 0) +
        (if (termchr parms).isSome ∧ reply.data.getLast? = termchr parms then rxChr else 0) +
        (if reply.data.length = parms.requestSize.toNat then rxReqcnt else 0) = 0
      rw [if_neg hended, if_neg hterminated, if_neg hcounted]
    have hfull : reply.data.length = min parms.requestSize.toNat maxRead :=
      hdone.resolve_left (not_not_intro hnone)
    refine .inr (?_ : reply.data.length = maxRead ∧ _)
    omega
  · exact .inl hzero

/-- The transfers of a `device_read`. -/
def deviceReadLog (backend : GpibBackend C P E) (config : Config) (parms : DeviceReadParms)
    (met : Circumstances) (port : Port C P E) : List (Transfer P) :=
  ((deviceRead (logged backend) config parms met).exec ⟨withLog port [], []⟩).2.port.ctrl.2

/-- A read of no bytes is answered at once. -/
theorem readCall_clamped_pos {link : Link} {parms : DeviceReadParms} (hsize : parms.requestSize ≠ 0) :
    ([] : List UInt8).length < (readCall link parms hsize).clamped :=
  lt_min (readCall link parms hsize).requestSize_pos (by decide)

theorem readReport_empty {parms : DeviceReadParms} (h : parms.requestSize = 0) :
    ReadReport parms ([] : List (Receive P)) ⟨ErrorCode.noError.asU32, UInt32.ofNat rxReqcnt, []⟩ where
  bounded := Nat.zero_le _
  whole _ := rfl
  failed _ := rfl
  reasoned _ := by
    refine ⟨.inl (by decide), iff_of_false (by decide) nofun, iff_of_false (by decide) ?_, ?_⟩
    · rintro ⟨hsome, hnone⟩
      rw [← hnone] at hsome
      cases hsome
    · rw [h]
      decide
  unreasoned hno := absurd rfl hno

theorem ReadAnswer.whole_resp (h : ReadAnswer call [] receives reply)
    (hio : reply.resp.error ≠ ErrorCode.ioError.asU32) :
    reply.resp.data = receives.flatMap Receive.chunk :=
  h.whole fun heq => hio (congrArg ErrorCode.asU32 heq)

theorem readReport_of_answer {link : Link} {parms : DeviceReadParms} {hsize : parms.requestSize ≠ 0}
    (htraffic : ReadTraffic (readCall link parms hsize) [] receives)
    (hanswer : ReadAnswer (readCall link parms hsize) [] receives reply) :
    ReadReport parms receives reply.resp where
  bounded := by
    by_cases hio : reply.error = .ioError
    · have hnone := hanswer.failed hio
      simp [ReadReply.resp, hnone]
    · have hwhole := hanswer.whole hio
      have hbounded := htraffic.bounded
      rw [← hwhole] at hbounded
      exact hbounded
  whole := hanswer.whole_resp
  failed hio := hanswer.failed (asU32_eq_ioError hio)
  reasoned hno := by
    obtain ⟨-, hreason, hdone⟩ := hanswer.reasons (asU32_eq_noError hno)
    exact reasoned_resp hreason hdone
  unreasoned hno := by
    have hzero := hanswer.unreasoned fun h => hno (congrArg ErrorCode.asU32 h)
    simp [ReadReply.resp, hzero]

/-- The reads of a call, and the traffic they make when the backend is honest. -/
structure CallTraffic (backend : GpibBackend C P E) (inputs : PollInputs) (parms : DeviceReadParms)
    (log : List (Transfer P)) (receives : List (Receive P)) : Prop where
  logged : log = receives.map .receive
  genuine : ∀ r ∈ receives, r.Genuine backend inputs
  asked : (∀ r ∈ receives, r.Honest) → AsksRest (min parms.requestSize.toNat maxRead) 0 receives

theorem DidRead.callTraffic {link : Link} {parms : DeviceReadParms} {hsize : parms.requestSize ≠ 0}
    (h : DidRead backend inputs (readCall link parms hsize) [] [] now receives) :
    CallTraffic backend inputs parms now receives where
  logged := h.logged
  genuine := h.genuine
  asked hhonest := (h.traffic (readCall_clamped_pos hsize) hhonest).asked

theorem deviceRead_report (backend : GpibBackend C P E) (config : Config) (parms : DeviceReadParms)
    {met : Circumstances} {link : Link} (hlink : met.link = some link) (haccess : met.access = .ok ()) :
    Interruptible.Ends (fun held => held.port.ctrl.2 = [])
      (deviceRead (logged backend) config parms met)
      (fun resp held => ∃ receives,
        CallTraffic backend met.inputs parms held.port.ctrl.2 receives ∧
        (resp.error ≠ ErrorCode.ioError.asU32 → resp.data = receives.flatMap Receive.chunk) ∧
        ((∀ r ∈ receives, r.Honest) → ReadReport parms receives resp))
      (fun held => ∃ receives, CallTraffic backend met.inputs parms held.port.ctrl.2 receives) := by
  unfold deviceRead
  rw [hlink]
  dsimp only
  split
  · rename_i hsize
    exact Interruptible.Ends.pure fun held hlog =>
      ⟨[], ⟨hlog, List.forall_mem_nil _, fun _ => trivial⟩, fun _ => rfl, fun _ => readReport_empty hsize⟩
  rename_i hsize
  rw [haccess]
  dsimp only
  refine (eos_logs (L := (· = []))).bind fun saved => ?_
  refine (setTerminator_logs (L := (· = []))).bind fun _ => ?_
  refine (readLoop_traffic.imp (fun _ h => h) (fun _ _ h => h) ?_).bind fun reply => ?_
  · rintro held ⟨receives, hdid⟩
    exact ⟨receives, hdid.callTraffic⟩
  let L : List (Transfer P) → Prop := fun log => ∃ receives,
    DidRead backend met.inputs (readCall link parms hsize) [] [] log receives ∧
      ReadAnswer (readCall link parms hsize) [] receives reply
  refine (setEos_logs (L := L)).bind fun _ => (setTimeout_logs (L := L)).bind fun _ =>
    Interruptible.Ends.pure ?_
  rintro held ⟨receives, hdid, hanswer⟩
  refine ⟨receives, hdid.callTraffic, hanswer.whole_resp, fun hhonest => ?_⟩
  exact readReport_of_answer (hdid.traffic (readCall_clamped_pos hsize) hhonest) hanswer

/-- The log of a run is that of the run with a log. -/
theorem deviceReadLog_report (backend : GpibBackend C P E) (config : Config) (parms : DeviceReadParms)
    {met : Circumstances} {link : Link} (hlink : met.link = some link) (haccess : met.access = .ok ())
    (port : Port C P E) :
    ∃ receives,
      CallTraffic backend met.inputs parms (deviceReadLog backend config parms met port) receives ∧
      ∀ resp, ((deviceRead backend config parms met).exec { port }).1 = some (.ok resp) →
        (resp.error ≠ ErrorCode.ioError.asU32 → resp.data = receives.flatMap Receive.chunk) ∧
        ((∀ r ∈ receives, r.Honest) → ReadReport parms receives resp) := by
  have hfollows : ((deviceRead backend config parms met).exec { port }).1 =
      ((deviceRead (logged backend) config parms met).exec ⟨withLog port [], []⟩).1 :=
    congrArg Prod.fst (follows_deviceRead ⟨withLog port [], []⟩)
  have hreport := deviceRead_report backend config parms hlink haccess ⟨withLog port [], []⟩ rfl
  rw [hfollows, deviceReadLog]
  match (deviceRead (logged backend) config parms met).exec ⟨withLog port [], []⟩, hreport with
  | (some (.ok resp), held), ⟨receives, htraffic, hreport⟩ =>
    refine ⟨receives, htraffic, ?_⟩
    rintro _ ⟨⟩
    exact hreport
  | (none, held), ⟨receives, htraffic⟩ => exact ⟨receives, htraffic, nofun⟩

def lineReadMet : Circumstances :=
  { link := some ⟨false, 5⟩, looks := [{ remaining := 2000000000 }] }

/-- An 82357 that gives one byte, and whose next read fails. -/
def brokenReadPort : Agilent.AgilentPort Unit :=
  Agilent.answered (Agilent.acceptsBytes ++ Agilent.acceptsRegisters ++
    [.completed [], .completed [0x61, 0]] ++ Agilent.acceptsBytes ++ Agilent.acceptsRegisters ++
    [.completed [], .failed (), .late, .late, .late] ++ Agilent.acceptsRegisters ++
    Agilent.acceptsRegisters)

def brokenReadMet : Circumstances :=
  { link := some ⟨false, 5⟩, looks := [{ remaining := 2000000000 }, { remaining := 1000000000 }] }

end Ugpibd.Vxi11.BusSettings
