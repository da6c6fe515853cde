import Ugpibd.Hislip.MessageIds

/-! Service requests the daemon's own polls take on behalf of a session, and what becomes of them by
the next status query. -/
namespace Ugpibd.Hislip
open Library SyncChannel

/-- A poll of the daemon's own took a service request, and since then no Data, DataEND or Trigger
has come and no status query was answered. -/
def owed : List SessionEvent → Bool
  | [] => false
  | .polled stb :: older => stb &&& stbRqs != 0 || owed older
  | .noted _ :: _ => false
  | .answered .. :: _ => false
  | _ :: older => owed older

/-- The same of a status byte that was put by. -/
def putBySince : List SessionEvent → Bool
  | [] => false
  | .putBy _ :: _ => true
  | .noted _ :: _ => false
  | .answered .. :: _ => false
  | _ :: older => putBySince older

/-- The byte the instrument answers a status query with; a failed poll counts as zero. -/
def liveByte (live : Except String UInt8) : UInt8 := live.toOption.getD 0

/-- A response has RQS exactly where the live byte has it, or is zero and a byte was put by. -/
def RqsExact : SessionEvent → List SessionEvent → Prop
  | .answered live _ stb, older => stb &&& stbRqs ≠ 0 ↔
      liveByte live &&& stbRqs ≠ 0 ∨ liveByte live = 0 ∧ putBySince older
  | _, _ => True

/-- A service request that is owed is in the response. -/
def RqsOwed : SessionEvent → List SessionEvent → Prop
  | .answered _ _ stb, older => owed older = true → stb &&& stbRqs ≠ 0
  | _, _ => True

/-- The service request an execution handed back, while its reply is on the way. -/
def SyncTask.serviceRequest : SyncTask → Option UInt8
  | .answering _ _ serviceRequest | .sending _ _ serviceRequest => serviceRequest
  | _ => none

/-- A status query reads zero or RQS, and it is not answered between the end of an execution that
raised a service request and the end of its reply, unless it reads RQS; and no execution fails whose
poll took a service request. -/
def keepsRequests (s : SyncChannel) : SyncAction → Prop
  | .statusQuery live _ => liveByte live &&& stbRqs ≠ 0 ∨
      liveByte live = 0 ∧ s.task.serviceRequest = none
  | .executed bus => ∀ requestId cmd, s.task = .executing requestId cmd →
      (execute (queryHint cmd) bus).isOk ∨ polledByExecute (queryHint cmd) bus = none
  | .writeFailed => s.task.serviceRequest = none
  | _ => True

/-- The bytes that are put by, or on their way there, have RQS. -/
structure Holds (s : SyncChannel) : Prop where
  kept : s.entry.consumedStb.isSome = putBySince s.history
  rqs : ∀ stb, s.entry.consumedStb = some stb → stb &&& stbRqs ≠ 0
  pending : ∀ stb, s.task.serviceRequest = some stb → stb &&& stbRqs ≠ 0
  events : EachEvent RqsExact s.history

/-- What is owed is put by, or on its way there. -/
structure Owes (s : SyncChannel) : Prop where
  owed : owed s.history = true → putBySince s.history = true ∨ s.task.serviceRequest.isSome
  events : EachEvent RqsOwed s.history

section
variable {config : SessionConfig} {s s' : SyncChannel} {a : SyncAction} {msg : Message}

/-- The RQS bit of a status response is the one of the byte it took. -/
theorem statusByte_rqs (entry : SessionEntry) (live : Except String UInt8) (messageId : UInt32) :
    entry.statusByte live messageId &&& stbRqs =
      (if liveByte live = 0 then entry.consumedStb.getD 0 else liveByte live) &&& stbRqs := by
  have hmask : ~~~stbMav &&& stbRqs = stbRqs := by decide
  have hbit : entry.mavBit messageId &&& stbRqs = 0 := by
    unfold SessionEntry.mavBit
    split_ifs <;> decide
  have hbyte : (if liveByte live = 0 then entry.consumedStb.getD (liveByte live) else liveByte live) =
      if liveByte live = 0 then entry.consumedStb.getD 0 else liveByte live := by
    split_ifs with hlive
    · rw [hlive]
    · rfl
  rw [← hbyte, SessionEntry.statusByte, or_and_right, UInt8.and_assoc, hmask, hbit, UInt8.or_zero]
  rfl

namespace Holds

/-- The answer to a status query has RQS where the live byte or the one put by gives it. -/
theorem answer (h : Holds s) (live : Except String UInt8) (messageId : UInt32) :
    s.entry.statusByte live messageId &&& stbRqs ≠ 0 ↔
      liveByte live &&& stbRqs ≠ 0 ∨ liveByte live = 0 ∧ putBySince s.history := by
  rw [statusByte_rqs]
  split_ifs with hlive
  · rw [← h.kept, hlive]
    cases hkept : s.entry.consumedStb with
    | none => simp
    | some stb => simpa using h.rqs stb hkept
  · simp [hlive]

/-- The loop turns to a task that carries no byte without RQS. -/
theorem retask (h : Holds s) (buffer : List UInt8) {task : SyncTask}
    (hpending : ∀ stb, task.serviceRequest = some stb → stb &&& stbRqs ≠ 0) :
    Holds { s with buffer, task } :=
  ⟨h.kept, h.rqs, hpending, h.events⟩

theorem noticeClear (h : Holds s) : Holds s.noticeClear := by
  unfold SyncChannel.noticeClear
  split_ifs
  · exact ⟨h.kept, h.rqs, h.pending, h.events⟩
  · exact h

theorem note (h : Holds s) (msg : Message) : Holds (s.note msg) :=
  ⟨rfl, nofun, h.pending, h.events.cons trivial⟩

theorem receive (h : Holds s) (msg : Message) : Holds (s.receive config msg) := by
  unfold SyncChannel.receive
  split
  · exact (h.note msg).retask _ h.pending
  · exact (h.note msg).retask _ nofun
  · exact (h.note msg).retask _ nofun
  · exact ⟨h.kept, h.rqs, nofun, h.events.cons trivial⟩
  · exact h.retask _ nofun
  · exact h
  · split_ifs
    · exact h.retask _ nofun
    · exact h.retask _ nofun

theorem raiseServiceRequest (h : Holds s) {serviceRequest : Option UInt8}
    (hrqs : ∀ stb, serviceRequest = some stb → stb &&& stbRqs ≠ 0) :
    Holds (s.raiseServiceRequest serviceRequest) := by
  cases serviceRequest with
  | none => exact h
  | some stb =>
    exact ⟨rfl, fun byte hbyte => hrqs byte hbyte, h.pending, h.events.cons trivial⟩

theorem notePolled (h : Holds s) (polled : Option UInt8) : Holds (s.notePolled polled) := by
  cases polled with
  | none => exact h
  | some stb => exact ⟨h.kept, h.rqs, h.pending, h.events.cons trivial⟩

theorem executed (h : Holds s) (requestId : UInt32) {result : Except String Execution}
    (hrqs : ∀ execution, result = .ok execution →
      ∀ stb, execution.serviceRequest = some stb → stb &&& stbRqs ≠ 0) :
    Holds (s.executed requestId result) := by
  unfold SyncChannel.executed
  split
  · exact h.retask _ nofun
  · have hidle : Holds { s with task := .reading } := h.retask _ nofun
    exact hidle.raiseServiceRequest (hrqs _ rfl)
  · exact ⟨h.kept, h.rqs, hrqs _ rfl, h.events.cons trivial⟩

theorem step (h : Holds s) (hs : SyncChannel.step config s a = some s') : Holds s' := by
  have hpending := h.pending
  cases SyncChannel.step_effect hs with
  | receive msg => exact h.noticeClear.receive msg
  | executed => exact (h.notePolled _).executed _ fun _ hok => (execute_serviceRequest hok).2
  | beginReply _ _ _ htask =>
    rw [htask] at hpending
    exact h.retask _ hpending
  | sendNext requestId piece rest serviceRequest htask =>
    have hentry : (s.entry.writePiece requestId piece).2.consumedStb = s.entry.consumedStb := by
      unfold SessionEntry.writePiece SessionEntry.responseMessageId
      split_ifs <;> rfl
    rw [htask] at hpending
    exact ⟨by rw [hentry]; exact h.kept, fun stb hstb => h.rqs stb (by rw [← hentry]; exact hstb),
      hpending, h.events.cons trivial⟩
  | replied _ _ htask =>
    rw [htask] at hpending
    have hidle : Holds { s with task := .reading } := h.retask _ nofun
    exact hidle.raiseServiceRequest hpending
  | written message ends =>
    exact ⟨h.kept, h.rqs, by cases ends <;> nofun, h.events.cons trivial⟩
  | forwarderPolled stb hrqs =>
    exact (h.notePolled _).raiseServiceRequest fun byte hbyte => Option.some.inj hbyte ▸ hrqs
  | statusQuery live messageId =>
    exact ⟨rfl, nofun, hpending, h.events.cons (h.answer live messageId)⟩
  | maximumMessageSize | asyncDeviceClear => exact ⟨h.kept, h.rqs, hpending, h.events⟩
  | readError | disconnected | triggered | writeFailed => exact h.retask _ nofun

end Holds

namespace Owes

theorem putBySince (h : Owes s) (hpending : s.task.serviceRequest = none)
    (howed : Hislip.owed s.history = true) : putBySince s.history = true := by
  rcases h.owed howed with hput | hput
  · exact hput
  · rw [hpending] at hput
    cases hput

/-- The loop turns from a task that carries no byte. -/
theorem retask (h : Owes s) (buffer : List UInt8) {task : SyncTask}
    (hpending : s.task.serviceRequest = none) : Owes { s with buffer, task } :=
  ⟨fun howed => .inl (h.putBySince hpending howed), h.events⟩

theorem noticeClear (h : Owes s) : Owes s.noticeClear := by
  unfold SyncChannel.noticeClear
  split_ifs
  · exact ⟨h.owed, h.events⟩
  · exact h

theorem note (h : Owes s) (msg : Message) (buffer : List UInt8) (task : SyncTask) :
    Owes { s.note msg with buffer, task } :=
  ⟨nofun, h.events.cons trivial⟩

theorem receive (h : Owes s) (hidle : s.task = .reading) (msg : Message) :
    Owes (s.receive config msg) := by
  have hpending : s.task.serviceRequest = none := by rw [hidle]; rfl
  unfold SyncChannel.receive
  split
  · exact h.note msg _ _
  · exact h.note msg _ _
  · exact h.note msg _ _
  · exact ⟨fun howed => .inl (h.putBySince hpending howed), h.events.cons trivial⟩
  · exact h.retask _ hpending
  · exact h
  · split_ifs
    · exact h.retask _ hpending
    · exact h.retask _ hpending

theorem putBy (h : Owes s) (stb : UInt8) : Owes (s.raiseServiceRequest (some stb)) :=
  ⟨fun _ => .inl rfl, h.events.cons trivial⟩

/-- An execution that returns carries on the service request its poll took. -/
theorem executed (h : Owes s) (hpending : s.task.serviceRequest = none) (requestId : UInt32)
    {polled : Option UInt8} {result : Except String Execution}
    (hkept : ∀ execution, result = .ok execution →
      ∀ stb, polled = some stb → execution.serviceRequest = some stb)
    (hok : result.isOk ∨ polled = none) :
    Owes ((s.notePolled polled).executed requestId result) := by
  cases polled with
  | none =>
    unfold SyncChannel.executed
    split
    · exact h.retask _ hpending
    · rename_i serviceRequest
      cases serviceRequest with
      | none => exact h.retask _ hpending
      | some stb => exact (h.retask _ hpending).putBy stb
    · exact ⟨fun howed => .inl (h.putBySince hpending howed), h.events.cons trivial⟩
  | some stb =>
    have hevents : EachEvent RqsOwed (s.notePolled (some stb)).history := h.events.cons trivial
    unfold SyncChannel.executed
    split
    · simp [Except.isOk, Except.toBool] at hok
    · obtain rfl : _ = some stb := hkept _ rfl stb rfl
      exact ⟨fun _ => .inl rfl, hevents.cons trivial⟩
    · obtain rfl : _ = some stb := hkept _ rfl stb rfl
      exact ⟨fun _ => .inr rfl, hevents.cons trivial⟩

theorem step (h : Owes s) (hholds : Holds s) (hguard : keepsRequests s a)
    (hs : SyncChannel.step config s a = some s') : Owes s' := by
  have howed := h.owed
  cases SyncChannel.step_effect hs with
  | receive msg hidle => exact h.noticeClear.receive (s.noticeClear_task.trans hidle) msg
  | executed bus requestId cmd htask =>
    exact h.executed (by rw [htask]; rfl) requestId
      (fun _ hok => (execute_serviceRequest hok).1) (hguard requestId cmd htask)
  | beginReply _ _ _ htask =>
    rw [htask] at howed
    exact ⟨howed, h.events⟩
  | sendNext _ _ _ _ htask =>
    rw [htask] at howed
    exact ⟨howed, h.events.cons trivial⟩
  | replied _ serviceRequest htask =>
    cases serviceRequest with
    | none => exact h.retask _ (by rw [htask]; rfl)
    | some stb => exact ⟨fun _ => .inl rfl, h.events.cons trivial⟩
  | written message ends htask =>
    exact ⟨fun howed => .inl (h.putBySince (by rw [htask]; rfl) howed), h.events.cons trivial⟩
  | writeFailed => exact h.retask _ hguard
  | forwarderPolled stb =>
    have hevents : EachEvent RqsOwed (.polled stb :: s.history) := h.events.cons trivial
    exact ⟨fun _ => .inl rfl, hevents.cons trivial⟩
  | statusQuery live messageId =>
    refine ⟨nofun, h.events.cons fun howed => (hholds.answer live messageId).mpr ?_⟩
    rcases hguard with hrqs | ⟨hzero, hpending⟩
    · exact .inl hrqs
    · exact .inr ⟨hzero, h.putBySince hpending howed⟩
  | maximumMessageSize | asyncDeviceClear => exact ⟨howed, h.events⟩
  | readError _ htask | disconnected htask | triggered htask =>
    exact h.retask _ (by rw [htask]; rfl)

end Owes

theorem holds_start (config : SessionConfig) : Holds (SyncChannel.start config) :=
  ⟨rfl, nofun, nofun, trivial⟩

theorem owes_start (config : SessionConfig) : Owes (SyncChannel.start config) :=
  ⟨nofun, trivial⟩

theorem reach_holds {guard : SyncChannel → SyncAction → Prop}
    (h : Reach (SyncChannel.step config) guard (SyncChannel.start config) s) : Holds s :=
  h.invariant (P := Holds) (holds_start config) fun _ _ _ hinv _ hs => hinv.step hs

theorem reach_owes
    (h : Reach (SyncChannel.step config) keepsRequests (SyncChannel.start config) s) : Owes s := by
  have hboth : Holds s ∧ Owes s :=
    h.invariant (P := fun s => Holds s ∧ Owes s) ⟨holds_start config, owes_start config⟩
      fun _ _ _ hinv hguard hs => ⟨hinv.1.step hs, hinv.2.step hinv.1 hguard hs⟩
  exact hboth.2

/-- In every session a status response has RQS exactly where the live byte has it, or is zero and a
byte was put by since the last message and the last response. Where the steps keep to the condition,
that is wherever a service request is owed. -/
theorem owed_request_reported (config : SessionConfig) :
    (∀ s, Reach (SyncChannel.step config) anyStep (SyncChannel.start config) s →
      ∀ newer live messageId stb older, s.history = newer ++ .answered live messageId stb :: older →
        (stb &&& stbRqs ≠ 0 ↔
          liveByte live &&& stbRqs ≠ 0 ∨ liveByte live = 0 ∧ putBySince older = true)) ∧
    ∀ s, Reach (SyncChannel.step config) keepsRequests (SyncChannel.start config) s →
      ∀ newer live messageId stb older, s.history = newer ++ .answered live messageId stb :: older →
        owed older = true → stb &&& stbRqs ≠ 0 := by
  constructor
  · intro s h newer live messageId stb older hsplit
    have hevents := (reach_holds h).events
    rw [hsplit] at hevents
    exact hevents.at_event
  · intro s h newer live messageId stb older hsplit
    have hevents := (reach_owes h).events
    rw [hsplit] at hevents
    exact hevents.at_event

/-- The latest event is a status response without the service request it owed. -/
def missesRequest (s : SyncChannel) : Bool :=
  match s.history with
  | .answered _ _ stb :: older => owed older && stb &&& stbRqs == 0
  | _ => false

/-- Three sessions in which a service request does not reach the client: the live byte has another
bit set, a reply is still on its way, and the read after the poll failed. -/
theorem owed_request_lost :
    let config : SessionConfig := ⟨0x0100, 0x100000, .synchronized⟩
    let lost (actions : List SyncAction) : Prop :=
      (exec (SyncChannel.step config) (SyncChannel.start config) actions).any missesRequest = true
    lost [.forwarderPolled 0x60, .statusQuery (.ok 0x20) 0xfffffefe] ∧
    lost [.receive ⟨.dataEnd, 0, 0xffffff00, [0x3f]⟩,
      .executed { srqAsserted := .ok true, poll := .ok 0x50, read := .ok ([0x31], true) },
      .beginReply, .statusQuery (.ok 0) 0xffffff00] ∧
    lost [.receive ⟨.dataEnd, 0, 0xffffff00, [0x3f]⟩,
      .executed { srqAsserted := .ok true, poll := .ok 0x60, read := .ok ([], false) }, .written,
      .statusQuery (.ok 0) 0xffffff00] := by
  decide +kernel

end
end Ugpibd.Hislip
