import Ugpibd.Hislip.ServiceRequests

/-! The service requests that the polls of an execution take from the instrument, on every path out of
it: to the end of the reply, or to the error that ends the execution early. -/
namespace Ugpibd.Hislip
open Library SyncChannel

/-- The service requests taken by a poll that have not been raised. -/
def unraised : List SessionEvent → List UInt8
  | [] => []
  | .polled stb :: older => stb :: unraised older
  | .putBy stb :: older => (unraised older).erase stb
  | _ :: older => unraised older

/-- The read that follows the poll, if there is one, succeeds with data or with the end of a message. -/
def ReadReturns (expectResponse : Bool) (bus : BusAnswers) : Prop :=
  (pollBeforeRead expectResponse bus).2 = true →
    ∃ data eom, bus.read = .ok (data, eom) ∧ (data ≠ [] ∨ eom = true)

/-- Runs in which the read after a poll that took a service request returns something, and no write
of a reply fails that carries one. -/
def carriesOut (s : SyncChannel) : SyncAction → Prop
  | .executed bus => ∀ requestId cmd, s.task = .executing requestId cmd →
      polledByExecute (queryHint cmd) bus ≠ none → ReadReturns (queryHint cmd) bus
  | .writeFailed => s.task.serviceRequest = none
  | _ => True

/-- The only request that is not raised is the one on its way behind a reply. -/
def Carried (s : SyncChannel) : Prop :=
  unraised s.history = [] ∨
    ∃ stb, unraised s.history = [stb] ∧ s.task.serviceRequest = some stb

section
variable {config : SessionConfig} {s s' : SyncChannel} {a : SyncAction} {expectResponse : Bool}
  {bus : BusAnswers} {stb : UInt8}

/-- An execution whose write went out returns exactly if the read after its poll does. -/
theorem execute_returns_iff (hwrite : bus.write = .ok ()) :
    (∃ execution, execute expectResponse bus = .ok execution) ↔ ReadReturns expectResponse bus := by
  unfold execute ReadReturns
  simp only [hwrite]
  cases houtput : (pollBeforeRead expectResponse bus).2 with
  | false => simp
  | true =>
    cases hread : bus.read with
    | error e => simp
    | ok output =>
      obtain ⟨data, eom⟩ := output
      cases data with
      | nil => cases eom <;> simp
      | cons b data => cases eom <;> simp

theorem write_of_polledByExecute (h : polledByExecute expectResponse bus = some stb) :
    bus.write = .ok () := by
  unfold polledByExecute at h
  split at h
  · cases h
  · assumption

/-- A service request that was polled leaves the execution exactly if the read returns. -/
theorem execute_carries_iff (h : polledByExecute expectResponse bus = some stb) :
    (∃ execution, execute expectResponse bus = .ok execution ∧
      execution.serviceRequest = some stb) ↔ ReadReturns expectResponse bus := by
  rw [← execute_returns_iff (write_of_polledByExecute h)]
  constructor
  · rintro ⟨execution, hok, -⟩
    exact ⟨execution, hok⟩
  · rintro ⟨execution, hok⟩
    exact ⟨execution, hok, (execute_serviceRequest hok).1 stb h⟩

namespace Carried

/-- A loop whose task carries no request has raised them all. -/
theorem raised (h : Carried s) (htask : s.task.serviceRequest = none) : unraised s.history = [] := by
  rcases h with hnone | ⟨stb, -, hcarried⟩
  · exact hnone
  · cases htask.symm.trans hcarried

/-- The loop turns from a task that carries no request, with nothing polled. -/
theorem of_idle (h : Carried s) (htask : s.task.serviceRequest = none)
    (hsame : unraised s'.history = unraised s.history) : Carried s' :=
  .inl (hsame.trans (h.raised htask))

/-- The loop goes on with the request its task carries. -/
theorem of_same (h : Carried s) (htask : s'.task.serviceRequest = s.task.serviceRequest)
    (hsame : unraised s'.history = unraised s.history) : Carried s' := by
  unfold Carried
  rw [htask, hsame]
  exact h

theorem noticeClear_history (s : SyncChannel) : s.noticeClear.history = s.history := by
  unfold SyncChannel.noticeClear
  split_ifs <;> rfl

theorem receive_unraised (s : SyncChannel) (msg : Message) :
    unraised (s.receive config msg).history = unraised s.history := by
  unfold SyncChannel.receive
  split
  iterate 6 rfl
  split_ifs <;> rfl

/-- What an execution hands back is raised, or carried by the task that answers. -/
theorem executed (hraised : unraised s.history = []) (requestId : UInt32)
    {polled : Option UInt8} {result : Except String Execution}
    (hkept : ∀ stb, polled = some stb →
      ∃ execution, result = .ok execution ∧ execution.serviceRequest = some stb) :
    Carried ((s.notePolled polled).executed requestId result) := by
  cases polled with
  | none =>
    unfold SyncChannel.executed
    split
    · exact .inl hraised
    · rename_i serviceRequest
      cases serviceRequest with
      | none => exact .inl hraised
      | some stb =>
        refine .inl ?_
        change (unraised s.history).erase stb = []
        rw [hraised]
        rfl
    · exact .inl hraised
  | some stb =>
    obtain ⟨⟨data, serviceRequest⟩, rfl, rfl⟩ := hkept stb rfl
    have hone : unraised (s.notePolled (some stb)).history = [stb] := by
      change stb :: unraised s.history = [stb]
      rw [hraised]
    cases data with
    | none =>
      refine .inl ?_
      change (unraised (s.notePolled (some stb)).history).erase stb = []
      rw [hone, List.erase_cons_head]
    | some data => exact .inr ⟨stb, hone, rfl⟩

theorem step (h : Carried s) (hg : carriesOut s a)
    (hs : SyncChannel.step config s a = some s') : Carried s' := by
  cases SyncChannel.step_effect hs with
  | receive msg htask =>
    refine h.of_idle (by rw [htask]; rfl) ?_
    rw [receive_unraised, noticeClear_history]
  | readError e htask | disconnected htask | triggered htask =>
    exact h.of_idle (by rw [htask]; rfl) rfl
  | executed bus requestId cmd htask =>
    refine executed (h.raised (by rw [htask]; rfl)) requestId ?_
    intro stb hpolled
    exact (execute_carries_iff hpolled).mpr (hg requestId cmd htask (by simp [hpolled]))
  | beginReply requestId data serviceRequest htask => exact h.of_same (by rw [htask]; rfl) rfl
  | sendNext requestId piece rest serviceRequest htask => exact h.of_same (by rw [htask]; rfl) rfl
  | replied requestId serviceRequest htask =>
    cases serviceRequest with
    | none => exact h.of_idle (by rw [htask]; rfl) rfl
    | some stb =>
      refine .inl ?_
      change (unraised s.history).erase stb = []
      rcases h with hnone | ⟨stb', hone, hcarried⟩
      · rw [hnone]
        rfl
      · rw [htask] at hcarried
        obtain rfl := Option.some.inj hcarried
        rw [hone, List.erase_cons_head]
  | written message ends htask => exact h.of_idle (by rw [htask]; rfl) rfl
  | writeFailed => exact h.of_idle hg rfl
  | forwarderPolled stb hrqs =>
    refine h.of_same rfl ?_
    change (stb :: unraised s.history).erase stb = _
    rw [List.erase_cons_head]
  | statusQuery live messageId => exact h.of_same rfl rfl
  | maximumMessageSize size => exact h.of_same rfl rfl
  | asyncDeviceClear => exact h.of_same rfl rfl

end Carried
end

/-- A service request that an execution's poll takes comes out of it exactly if the read that follows
returns data or the end of a message; and in every run in which those reads do, and no write of a reply
that carries one fails, every request polled has been raised once its reply is out. -/
theorem polled_requests_raised (config : SessionConfig) :
    (∀ expectResponse bus stb, polledByExecute expectResponse bus = some stb →
      ((∃ execution, execute expectResponse bus = .ok execution ∧
        execution.serviceRequest = some stb) ↔ ReadReturns expectResponse bus)) ∧
    ∀ s, Reach (SyncChannel.step config) carriesOut (SyncChannel.start config) s →
      s.task.serviceRequest = none → unraised s.history = [] := by
  refine ⟨fun _ _ _ => execute_carries_iff, ?_⟩
  intro s h htask
  have hcarried : Carried s :=
    h.invariant (P := Carried) (.inl rfl) fun _ _ _ hs hg hstep => hs.step hg hstep
  exact hcarried.raised htask

/-- A query during which the instrument asks for service. -/
def statusQuestion : Message := ⟨.dataEnd, 0, 0xffffff00, [0x2a, 0x45, 0x53, 0x52, 0x3f]⟩

/-- A command that is answered by a service request alone, which is raised at once. -/
theorem polled_requests_raised_command :
    ∃ s, Reach (SyncChannel.step ⟨0x0100, 1024, .synchronized⟩) carriesOut
        (SyncChannel.start ⟨0x0100, 1024, .synchronized⟩) s ∧
      s.entry.consumedStb = some 0x40 ∧ unraised s.history = [] := by
  have hrun : Reach (SyncChannel.step ⟨0x0100, 1024, .synchronized⟩) carriesOut
      (SyncChannel.start ⟨0x0100, 1024, .synchronized⟩) _ :=
    (Reach.refl.tail (a := .receive ⟨.dataEnd, 0, 0xffffff00, [0x2a, 0x4f, 0x50, 0x43]⟩)
      trivial rfl).tail (a := .executed { poll := .ok 0x40 })
      (fun _ _ _ _ _ => ⟨[], true, rfl, .inr rfl⟩) rfl
  exact ⟨_, hrun, rfl, (polled_requests_raised _).2 _ hrun rfl⟩

/-- The poll takes the request, the read fails, and the loop reads the next message with the request
neither raised nor kept. -/
theorem polled_request_dropped :
    ∃ s, Reach (SyncChannel.step ⟨0x0100, 1024, .synchronized⟩) anyStep
        (SyncChannel.start ⟨0x0100, 1024, .synchronized⟩) s ∧
      s.task = .reading ∧ unraised s.history = [0x60] ∧ s.entry.consumedStb = none := by
  obtain ⟨s, hreach, htest⟩ := exists_reach_of_exec
    (SyncChannel.step ⟨0x0100, 1024, .synchronized⟩)
    (SyncChannel.start ⟨0x0100, 1024, .synchronized⟩)
    (fun s => s.task == .reading && unraised s.history == [0x60] && s.entry.consumedStb == none)
    [.receive statusQuestion,
      .executed { srqAsserted := .ok true, poll := .ok 0x60, read := .error "timeout" }, .written]
    (by decide +kernel)
  simp only [Bool.and_eq_true, beq_iff_eq] at htest
  obtain ⟨⟨htask, hunraised⟩, hkept⟩ := htest
  exact ⟨s, hreach, htask, hunraised, hkept⟩

end Ugpibd.Hislip
