import Ugpibd.Vxi11.AbortDelivery

/-! When in a call an abort arrives. One that finds the window open, and a flag test still ahead of the
next transaction, ends the call there. -/
namespace Ugpibd.Vxi11.Abort
open Library

/-- The call's window is open, and if it still waits for the bus it looks at the flag once it has it.
Only writes and reads do. -/
def Call.Abortable (call : Call) : Prop :=
  call.phase.windowOpen = true ∧ (call.phase = .busWait → call.procedure.looped = true)

/-- What holds of a call, whenever in it the aborts were made. -/
structure Call.Heeds (call : Call) : Prop where
  named : call.phase.inProgress = true → call.named = true →
    call.Abortable ∧ call.delivered = true
  early : call.late = false
  waited : call.waited = true → call.named = true ∧ call.transactions = 0 ∧
    (call.phase.waits = true ∨ call.phase = .returned .abort)
  untouched : call.phase.waits = true → call.transactions = 0

namespace Call
variable {call : Call}

theorem heeds_fresh (procedure : Procedure) (phase : CallPhase) : Heeds { procedure, phase } :=
  ⟨nofun, rfl, nofun, fun _ => rfl⟩

theorem Heeds.not_waited (h : call.Heeds) (hnamed : call.named = false) : call.waited = false := by
  refine Bool.eq_false_iff.mpr fun hwaited => ?_
  rw [(h.waited hwaited).1] at hnamed
  cases hnamed

/-- An abort never named the call, so it may go on to anything. -/
theorem Heeds.unnamed (h : call.Heeds) (hnamed : call.named = false) {phase : CallPhase}
    (hfirst : phase.waits = true → call.transactions = 0) : Heeds { call with phase } where
  named _ hyes := absurd hyes (by rw [hnamed]; nofun)
  early := h.early
  waited hyes := absurd hyes (by rw [h.not_waited hnamed]; nofun)
  untouched := hfirst

theorem Heeds.transact (h : call.Heeds) (hnamed : call.named = false) :
    Heeds { call with
      phase := .onBus
      transactions := call.transactions + 1
      late := call.late || call.named } where
  named _ hyes := absurd hyes (by rw [hnamed]; nofun)
  early := by rw [h.early, hnamed]; rfl
  waited hyes := absurd hyes (by rw [h.not_waited hnamed]; nofun)
  untouched := nofun

theorem Heeds.returned_abort (h : call.Heeds) :
    Heeds { call with phase := .returned .abort } where
  named := nofun
  early := h.early
  waited hyes := ⟨(h.waited hyes).1, (h.waited hyes).2.1, .inr rfl⟩
  untouched := nofun

/-- Once it is on the bus a call has not been found waiting. -/
theorem Heeds.returned (h : call.Heeds) (hbus : call.phase.waits = false)
    (hphase : call.phase.inProgress = true) (error : ErrorCode) :
    Heeds { call with phase := .returned error } where
  named := nofun
  early := h.early
  waited hyes := by
    rcases (h.waited hyes).2.2 with hwaits | hend
    · rw [hbus] at hwaits
      cases hwaits
    · rw [hend] at hphase
      cases hphase
  untouched := nofun

theorem Heeds.pause (h : call.Heeds) (hphase : call.phase = .onBus) :
    Heeds { call with phase := .pacing } where
  named _ hyes := ⟨⟨rfl, nofun⟩, (h.named (by rw [hphase]; rfl) hyes).2⟩
  early := h.early
  waited hyes := by
    rcases (h.waited hyes).2.2 with hwaits | hend
    · rw [hphase] at hwaits
      cases hwaits
    · rw [hphase] at hend
      cases hend
  untouched := nofun

theorem Heeds.mark (h : call.Heeds)
    (hable : call.phase.inProgress = true → call.Abortable) : (call.mark true).Heeds := by
  by_cases hphase : call.phase.inProgress = true
  · have hable := hable hphase
    rw [Call.mark_inProgress hphase]
    refine ⟨fun _ _ => ⟨hable, ?_⟩, h.early, fun hyes => ⟨rfl, ?_⟩, h.untouched⟩
    · exact Bool.or_eq_true_iff.mpr (.inr hable.1)
    · rcases Bool.or_eq_true_iff.mp hyes with hbefore | hwaits
      · exact (h.waited hbefore).2
      · exact ⟨h.untouched hwaits, .inl hwaits⟩
  · rw [Call.mark, if_neg hphase]
    exact h

end Call

namespace LinkCalls
variable {s s' : LinkCalls} {a : CallAction} {c : Nat} {call : Call}

/-- Windows do not overlap, an abort finds every call of the link abortable, and a lock that is
granted or times out finds no abort standing. -/
def heeded (s : LinkCalls) (a : CallAction) : Prop :=
  s.oneWindow a ∧ match a with
    | .abort => ∀ c call, s.calls c = some call → call.phase.inProgress = true → call.Abortable
    | .lockDone .. => s.aborted = false
    | _ => True

/-- A wait in `device_lock` that has been aborted is going to be woken. -/
def Woken (s : LinkCalls) : Prop :=
  Each (fun call => call.phase = .lockWait → call.delivered = true → s.permit = true) s

/-- A call that goes on with the flag down has not been named. -/
theorem Windows.unnamed (h : s.Windows) (hheeds : call.Heeds) (hopen : s.Windowed c call)
    (hflag : s.aborted = false) : call.named = false := by
  refine Bool.eq_false_iff.mpr fun hnamed => ?_
  have hdelivered := (hheeds.named (CallPhase.inProgress_of_windowOpen hopen.2) hnamed).2
  rw [h.kept c call hopen hdelivered] at hflag
  cases hflag

theorem step_heeds (h : s.Windows) (hheeds : Each Call.Heeds s) (hg : s.heeded a)
    (hstep : s.step a = some s') : Each Call.Heeds s' := by
  cases step_effect hstep with
  | start => exact hheeds.enter fun phase => Call.heeds_fresh _ phase
  | admitted hcall hgate =>
    have hold := hheeds _ _ hcall
    refine hheeds.enter fun phase => hold.unnamed ?_ fun _ => hold.untouched (by rw [hgate]; rfl)
    refine Bool.eq_false_iff.mpr fun hnamed => ?_
    have hopen := (hold.named (by rw [hgate]; rfl) hnamed).1.1
    rw [hgate] at hopen
    cases hopen
  | loop expired hcall hphase =>
    have hold := hheeds _ _ hcall
    have hopen : s.Windowed _ _ := ⟨hcall, by rcases hphase with hp | hp | hp <;> rw [hp] <;> rfl⟩
    refine hheeds.loopTop (fun _ => hold.returned_abort) (fun hflag => ?_) fun hflag => ?_
    · exact hold.unnamed (h.unnamed hold hopen hflag) nofun
    · exact hheeds.put (hold.transact (h.unnamed hold hopen hflag))
  | transact hcall hphase hlooped =>
    have hold := hheeds _ _ hcall
    refine hheeds.put (hold.transact (Bool.eq_false_iff.mpr fun hnamed => ?_))
    rw [(hold.named (by rw [hphase]; rfl) hnamed).1.2 hphase] at hlooped
    cases hlooped
  | pause hcall hphase => exact hheeds.put ((hheeds _ _ hcall).pause hphase)
  | done tests error hcall hphase =>
    refine hheeds.put ((hheeds _ _ hcall).returned ?_ ?_ _) <;>
      rcases hphase with hp | hp <;> rw [hp] <;> rfl
  | lockAbort hcall => exact hheeds.put (hheeds _ _ hcall).returned_abort
  | lockDone error hcall hphase =>
    have hold := hheeds _ _ hcall
    exact hheeds.put (hold.unnamed
      (h.unnamed hold ⟨hcall, by rw [hphase]; rfl⟩ hg.2) nofun)
  | abort =>
    refine Each.deviceAbort fun c call hcall => ?_
    by_cases hphase : call.phase.inProgress = true
    · have hmark : s.inFlight = true := h.mark.mpr ⟨c, call, hcall, (hg.2 c call hcall hphase).1⟩
      rw [hmark]
      exact (hheeds c call hcall).mark (hg.2 c call hcall)
    · rw [Call.mark, if_neg hphase]
      exact hheeds c call hcall
  | lockIdle | bus => exact hheeds

private theorem enter_woken {admission : Admission} (hwoken : s.Woken)
    (hfresh : call.delivered = false) : (s.enter c call admission).Woken := by
  have hcalls : Each (fun call => call.phase = .lockWait → call.delivered = true →
      s.permit = true) (s.enter c call admission) :=
    hwoken.enter fun _ _ hdelivered => absurd hdelivered (by rw [hfresh]; nofun)
  cases admission with
  | passed | waits =>
    unfold LinkCalls.enter at hcalls ⊢
    dsimp only at hcalls ⊢
    split at hcalls <;> exact hcalls
  | answered | answeredInside => exact hcalls

/-- The permit is taken only by the one wait there is, which ends with it if it was aborted. -/
theorem step_woken (h : s.Windows) (hwoken : s.Woken) (hstep : s.step a = some s') : s'.Woken := by
  have hput : ∀ {c call}, call.phase ≠ .lockWait → Each (fun call => call.phase = .lockWait →
      call.delivered = true → s.permit = true) (s.put c call) :=
    fun hne => hwoken.put fun hphase => absurd hphase hne
  cases step_effect hstep with
  | start => exact enter_woken hwoken rfl
  | admitted hcall hgate => exact enter_woken hwoken (h.clear _ _ hcall hgate)
  | loop expired =>
    unfold loopTop
    split
    · exact hput nofun
    · split <;> exact hput nofun
  | transact | pause | done | lockDone => exact hput nofun
  | @lockAbort c call hcall hphase =>
    intro c' call' hcalls hphase'
    rcases put_calls_cases hcalls with ⟨-, rfl⟩ | ⟨hne, hcalls⟩
    · cases hphase'
    · have hopen : s.Windowed c call := ⟨hcall, by rw [hphase]; rfl⟩
      have hopen' : s.Windowed c' call' := ⟨hcalls, by rw [hphase']; rfl⟩
      exact absurd (h.one c' c call' call hopen' hopen) hne
  | lockIdle _ _ hflag =>
    intro c call hcall hphase hdelivered
    rw [h.kept c call ⟨hcall, by rw [hphase]; rfl⟩ hdelivered] at hflag
    cases hflag
  | abort =>
    intro c call hcalls hphase _
    obtain ⟨old, hold, rfl⟩ := deviceAbort_calls hcalls
    rw [Call.mark_phase] at hphase
    exact Bool.or_eq_true_iff.mpr (.inr (h.mark.mpr ⟨c, old, hold, by rw [hphase]; rfl⟩))
  | bus => exact hwoken

private theorem reach_timing (h : Reach step heeded {} s) :
    s.Windows ∧ Each Call.Heeds s ∧ s.Woken := by
  refine h.invariant (P := fun s => s.Windows ∧ Each Call.Heeds s ∧ s.Woken)
    ⟨windows_start, Each.start, Each.start⟩ fun _ _ _ hinv hg hstep => ?_
  exact ⟨step_windows hinv.1 hg.1 hstep, step_heeds hinv.1 hinv.2.1 hg hstep,
    step_woken hinv.1 hinv.2.2 hstep⟩

/-- The next step of its own ends the call with an abort. -/
def AbortsNext (s : LinkCalls) (c : Nat) (call : Call) (a : CallAction) : Prop :=
  ∃ s', s.step a = some s' ∧ s'.calls c = some { call with phase := .returned .abort }

theorem acquire_aborts (hcall : s.calls c = some call) (hphase : call.phase = .busWait)
    (hlooped : call.procedure.looped = true) (hflag : s.aborted = true) (hfree : s.bus = .free)
    (expired : Bool) : s.AbortsNext c call (.acquire c expired) := by
  refine ⟨s.finish c call .abort, ?_, put_calls_self⟩
  simp [step, hcall, hphase, hfree, hlooped, loopTop, hflag]

theorem lockWake_aborts (hcall : s.calls c = some call) (hphase : call.phase = .lockWait)
    (hflag : s.aborted = true) (hpermit : s.permit = true) : s.AbortsNext c call (.lockWake c) := by
  refine ⟨{ s with permit := false }.finish c call .abort, ?_, put_calls_self⟩
  simp [step, hcall, hphase, hflag, hpermit]

/-- In every run in which windows do not overlap, aborts find the calls of the link abortable and a
lock is not granted over a standing abort: no call starts a bus transaction after it was named, and
one that was found waiting has not touched the bus. If it has returned, it was with an abort; if not,
it returns so as soon as it has the bus, or at its wake-up, which is due. -/
theorem aborts_heeded (h : Reach step heeded {} s) (hcall : s.calls c = some call) :
    call.late = false ∧ (call.waited = true → call.transactions = 0 ∧
      (call.phase = .returned .abort ∨
        (call.phase = .busWait ∧
          (s.bus = .free → ∀ expired, s.AbortsNext c call (.acquire c expired))) ∨
        (call.phase = .lockWait ∧ s.AbortsNext c call (.lockWake c)))) := by
  obtain ⟨hwindows, hheeds, hwoken⟩ := reach_timing h
  have hold := hheeds c call hcall
  refine ⟨hold.early, fun hwaited => ?_⟩
  obtain ⟨hnamed, huntouched, hphase | hend⟩ := hold.waited hwaited
  · refine ⟨huntouched, .inr ?_⟩
    have hprogress : call.phase.inProgress = true := by
      cases hp : call.phase <;> rw [hp] at hphase <;> first | rfl | cases hphase
    obtain ⟨⟨hopen, hlooped⟩, hdelivered⟩ := hold.named hprogress hnamed
    have hflag := hwindows.kept c call ⟨hcall, hopen⟩ hdelivered
    cases hp : call.phase with
    | busWait =>
      exact .inl ⟨rfl, fun hfree => acquire_aborts hcall hp (hlooped hp) hflag hfree⟩
    | lockWait =>
      exact .inr ⟨rfl, lockWake_aborts hcall hp hflag (hwoken c call hcall hp hdelivered)⟩
    | gate => rw [hp] at hopen; cases hopen
    | onBus | pacing | returned => rw [hp] at hphase; cases hphase
  · exact ⟨huntouched, .inl hend⟩

/-- A write is aborted while it waits for the bus that another front end has. -/
theorem waiting_write_aborts : ∃ s, Reach step heeded {} s ∧ s.bus = .free ∧
    ∃ call, s.calls 1 = some call ∧ call.waited = true ∧ call.transactions = 0 ∧
      s.AbortsNext 1 call (.acquire 1 false) := by
  have hopen : Reach step heeded {} _ :=
    (Reach.refl.tail (a := .busTaken) ⟨trivial, trivial⟩ rfl).tail
      (a := .start 1 .deviceWrite .passed) ⟨fun _ _ _ hwindow => (nomatch hwindow.1), trivial⟩ rfl
  have habort := hopen.tail (a := .abort) (by
    refine ⟨trivial, fun c call hcall _ => ?_⟩
    rcases put_calls_cases hcall with ⟨-, rfl⟩ | ⟨-, hcall⟩
    · exact ⟨rfl, fun _ => rfl⟩
    · cases hcall) rfl
  have hrun := habort.tail (a := .busFreed) (by exact ⟨trivial, trivial⟩) rfl
  obtain ⟨-, hwaited⟩ := aborts_heeded hrun (c := 1) rfl
  obtain ⟨huntouched, hend | ⟨-, hnext⟩ | ⟨hlock, -⟩⟩ := hwaited rfl
  · cases hend
  · exact ⟨_, hrun, rfl, _, rfl, rfl, huntouched, hnext rfl false⟩
  · cases hlock

/-- A status poll is aborted while it waits for the bus, and polls all the same. A write is aborted
while another link's lock keeps it at the gate, and goes through when the lock is let go. -/
theorem aborted_poll_still_polls :
    (∃ s, Reach step anyStep {} s ∧ ∃ call, s.calls 1 = some call ∧
      call.waited = true ∧ call.late = true ∧ call.transactions = 1) ∧
    ∃ s, Reach step anyStep {} s ∧ ∃ call, s.calls 1 = some call ∧
      call.waited = true ∧ call.late = true ∧ call.phase = .returned .noError := by
  constructor
  · obtain ⟨s, hreach, htest⟩ := exists_reach_of_exec step {}
      (fun s => (s.calls 1).any
        (fun call => call.waited = true ∧ call.late = true ∧ call.transactions = 1))
      [.busTaken, .start 1 .deviceReadstb .passed, .abort, .busFreed, .acquire 1 false]
      (by decide +kernel)
    obtain ⟨call, hcall, hlate⟩ := (Option.any_eq_true ..).mp htest
    exact ⟨s, hreach, call, hcall, of_decide_eq_true hlate⟩
  · obtain ⟨s, hreach, htest⟩ := exists_reach_of_exec step {}
      (fun s => (s.calls 1).any
        (fun call => call.waited = true ∧ call.late = true ∧ call.phase = .returned .noError))
      [.start 1 .deviceWrite .waits, .abort, .admitted 1 .passed, .acquire 1 false,
        .complete 1 (.done ⟨.noError, by decide⟩)] (by decide +kernel)
    obtain ⟨call, hcall, hlate⟩ := (Option.any_eq_true ..).mp htest
    exact ⟨s, hreach, call, hcall, of_decide_eq_true hlate⟩

end LinkCalls
end Ugpibd.Vxi11.Abort
