import Ugpibd.Vxi11.AbortWindow

/-! Which calls an abort reaches. With one window at a time the link's mark and flag are that call's
own; with two they are whoever's resets them last. -/
namespace Ugpibd.Vxi11.Abort
open Library

namespace LinkCalls
variable {s s' : LinkCalls} {a : CallAction} {c c' : Nat} {call call' : Call} {error : ErrorCode}

/-- A call opens its window only while no other window on the link is open. -/
def oneWindow (s : LinkCalls) : CallAction → Prop
  | .start _ procedure admission => admission.opens procedure = true →
      ∀ c call, ¬ s.Windowed c call
  | .admitted c admission => ∀ call, s.calls c = some call →
      admission.opens call.procedure = true → ∀ c call, ¬ s.Windowed c call
  | _ => True

/-- The mark and the flag belong to the one open window. -/
structure Windows (s : LinkCalls) : Prop where
  one : ∀ c c' call call', s.Windowed c call → s.Windowed c' call' → c = c'
  mark : s.inFlight = true ↔ ∃ c call, s.Windowed c call
  kept : ∀ c call, s.Windowed c call → call.delivered = true → s.aborted = true
  flag : s.aborted = true → ∃ c call, s.Windowed c call ∧ call.delivered = true
  blamed : ∀ c call, s.calls c = some call → call.phase = .returned .abort → call.delivered = true
  clear : ∀ c call, s.calls c = some call → call.phase = .gate → call.delivered = false

/-- No window is open, and the mark and the flag are down. -/
theorem Windows.of_none (hnone : ∀ c call, ¬ s.Windowed c call) (hmark : s.inFlight = false)
    (hflag : s.aborted = false)
    (hblamed : Each (fun call => call.phase = .returned .abort → call.delivered = true) s)
    (hclear : Each (fun call => call.phase = .gate → call.delivered = false) s) : s.Windows where
  one c _ call _ hopen := absurd hopen (hnone c call)
  mark := by
    rw [hmark]
    exact ⟨nofun, fun ⟨c, call, hopen⟩ => absurd hopen (hnone c call)⟩
  kept c call hopen := absurd hopen (hnone c call)
  flag habort := absurd habort (by rw [hflag]; nofun)
  blamed := hblamed
  clear := hclear

/-- One window is open; the mark is up, and the flag iff an abort was delivered to it. -/
theorem Windows.of_only (honly : ∀ c' call', s.Windowed c' call' ↔ c' = c ∧ call' = call)
    (hmark : s.inFlight = true) (hflag : s.aborted = true ↔ call.delivered = true)
    (hblamed : Each (fun call => call.phase = .returned .abort → call.delivered = true) s)
    (hclear : Each (fun call => call.phase = .gate → call.delivered = false) s) : s.Windows where
  one c₁ c₂ call₁ call₂ h₁ h₂ := by rw [((honly _ _).mp h₁).1, ((honly _ _).mp h₂).1]
  mark := ⟨fun _ => ⟨c, call, (honly _ _).mpr ⟨rfl, rfl⟩⟩, fun _ => hmark⟩
  kept c' call' hopen hdelivered := by
    rw [((honly _ _).mp hopen).2] at hdelivered
    exact hflag.mpr hdelivered
  flag habort := ⟨c, call, (honly _ _).mpr ⟨rfl, rfl⟩, hflag.mp habort⟩
  blamed := hblamed
  clear := hclear

theorem windows_start : Windows {} := by
  refine .of_none ?_ rfl rfl Each.start Each.start
  intro c call hopen
  cases hopen.1

theorem windowed_put : (s.put c call).Windowed c' call' ↔
    (c' = c ∧ call' = call ∧ call.phase.windowOpen = true) ∨ (c' ≠ c ∧ s.Windowed c' call') := by
  constructor
  · rintro ⟨hcalls, hopen⟩
    rcases put_calls_cases hcalls with ⟨rfl, rfl⟩ | ⟨hne, hcalls⟩
    · exact .inl ⟨rfl, rfl, hopen⟩
    · exact .inr ⟨hne, hcalls, hopen⟩
  · rintro (⟨rfl, rfl, hopen⟩ | ⟨hne, hcalls, hopen⟩)
    · exact ⟨put_calls_self, hopen⟩
    · exact ⟨(put_calls_ne hne).trans hcalls, hopen⟩

/-- A call with an open window is put where no other window is. -/
theorem windowed_put_only (hothers : ∀ c' call', s.Windowed c' call' → c' = c)
    (hopen : call.phase.windowOpen = true) :
    (s.put c call).Windowed c' call' ↔ c' = c ∧ call' = call := by
  refine windowed_put.trans ⟨?_, fun ⟨hc, hcall⟩ => .inl ⟨hc, hcall, hopen⟩⟩
  rintro (⟨hc, hcall, -⟩ | ⟨hne, hother⟩)
  · exact ⟨hc, hcall⟩
  · exact absurd (hothers c' call' hother) hne

/-- The flag, where it is up, was put up for the call whose window is open. -/
theorem Windows.delivered (h : s.Windows) (hopen : s.Windowed c call) (habort : s.aborted = true) :
    call.delivered = true := by
  obtain ⟨c', call', hopen', hdelivered⟩ := h.flag habort
  obtain rfl := h.one c c' call call' hopen hopen'
  obtain rfl := Option.some.inj (hopen.1.symm.trans hopen'.1)
  exact hdelivered

theorem Windows.not_aborted (h : s.Windows) (hnone : ∀ c call, ¬ s.Windowed c call) :
    s.aborted = false := by
  refine Bool.eq_false_iff.mpr fun habort => ?_
  obtain ⟨c, call, hopen, -⟩ := h.flag habort
  exact hnone c call hopen

/-- A call without a window changes. -/
private theorem Windows.put_closed (h : s.Windows) (hwas : ∀ call, ¬ s.Windowed c call)
    (hclosed : call.phase.windowOpen = false) (hplain : call.phase ≠ .returned .abort)
    (hfresh : call.delivered = false) : (s.put c call).Windows := by
  have hsame : ∀ c' call', (s.put c call).Windowed c' call' ↔ s.Windowed c' call' := by
    intro c' call'
    rw [windowed_put]
    constructor
    · rintro (⟨-, -, hopen⟩ | ⟨-, hopen⟩)
      · rw [hclosed] at hopen
        cases hopen
      · exact hopen
    · intro hopen
      refine .inr ⟨?_, hopen⟩
      rintro rfl
      exact hwas call' hopen
  refine ⟨?_, ?_, ?_, ?_, ?_, ?_⟩
  · simpa only [hsame] using h.one
  · simp only [hsame]
    exact h.mark
  · simp only [hsame]
    exact h.kept
  · simp only [hsame]
    exact h.flag
  · exact Each.put h.blamed fun hphase => absurd hphase hplain
  · exact Each.put h.clear fun _ => hfresh

/-- The only window opens. -/
private theorem Windows.open (h : s.Windows) (hnone : ∀ c call, ¬ s.Windowed c call)
    {phase : CallPhase} (hopen : phase.windowOpen = true) (hfresh : call.delivered = false) :
    (s.openWindow c call phase).Windows := by
  have hothers : ∀ c' call', s.Windowed c' call' → c' = c :=
    fun c' call' hother => absurd hother (hnone c' call')
  have honly : ∀ c' call', (s.openWindow c call phase).Windowed c' call' ↔
      c' = c ∧ call' = { call with phase } := fun _ _ => windowed_put_only hothers hopen
  refine .of_only honly rfl ?_ ?_ ?_
  · rw [show (s.openWindow c call phase).aborted = s.aborted from rfl, h.not_aborted hnone, hfresh]
  · exact Each.put h.blamed fun (hphase : phase = _) => absurd hopen (by rw [hphase]; nofun)
  · exact Each.put h.clear fun _ => hfresh

/-- A call goes on with its window open. -/
private theorem Windows.put_open (h : s.Windows) (hwas : s.Windowed c call)
    (hopen : call'.phase.windowOpen = true) (hsame : call'.delivered = call.delivered)
    (bus : BusOwner) : Windows { s.put c call' with bus } := by
  have hothers : ∀ c₁ call₁, s.Windowed c₁ call₁ → c₁ = c :=
    fun c₁ call₁ hother => h.one c₁ c call₁ call hother hwas
  refine .of_only (fun _ _ => windowed_put_only hothers hopen) (h.mark.mpr ⟨c, call, hwas⟩) ?_ ?_ ?_
  · rw [hsame]
    exact ⟨h.delivered hwas, h.kept c call hwas⟩
  · exact Each.put h.blamed fun hphase => absurd hopen (by rw [hphase]; nofun)
  · exact Each.put h.clear fun hphase => absurd hopen (by rw [hphase]; nofun)

/-- The only window closes: the mark and the flag are down and nobody misses them. -/
private theorem Windows.finish (h : s.Windows) (honly : ∀ c' call', s.Windowed c' call' → c' = c)
    (hblame : error = .abort → call.delivered = true) : (s.finish c call error).Windows := by
  refine .of_none ?_ rfl rfl ?_ ?_
  · intro c' call' hwindow
    rcases windowed_put.mp hwindow with ⟨-, -, hopen⟩ | ⟨hne, hother⟩
    · cases hopen
    · exact hne (honly c' call' hother)
  · exact Each.put h.blamed fun hphase => hblame (CallPhase.returned.inj hphase)
  · exact Each.put h.clear nofun

theorem windowed_deviceAbort : s.deviceAbort.Windowed c call ↔
    ∃ old, s.Windowed c old ∧ call = old.mark s.inFlight := by
  constructor
  · rintro ⟨hcalls, hopen⟩
    obtain ⟨old, hold, rfl⟩ := deviceAbort_calls hcalls
    exact ⟨old, ⟨hold, by rwa [Call.mark_phase] at hopen⟩, rfl⟩
  · rintro ⟨old, ⟨hold, hopen⟩, rfl⟩
    exact ⟨congrArg (Option.map _) hold, by rwa [Call.mark_phase]⟩

/-- An abort that is accepted with a call's window open is delivered to it. -/
theorem mark_delivered (hopen : call.phase.windowOpen = true) :
    (call.mark true).delivered = true := by
  rw [Call.mark_inProgress (CallPhase.inProgress_of_windowOpen hopen)]
  simp [hopen]

/-- An abort with a window open puts the flag up for it. -/
private theorem Windows.abort (h : s.Windows) : s.deviceAbort.Windows := by
  refine ⟨?_, ?_, ?_, ?_, ?_, ?_⟩
  · intro c c' call call' hwindow hwindow'
    obtain ⟨old, hold, -⟩ := windowed_deviceAbort.mp hwindow
    obtain ⟨old', hold', -⟩ := windowed_deviceAbort.mp hwindow'
    exact h.one c c' old old' hold hold'
  · refine h.mark.trans ⟨?_, ?_⟩
    · rintro ⟨c, old, hold⟩
      exact ⟨c, _, windowed_deviceAbort.mpr ⟨old, hold, rfl⟩⟩
    · rintro ⟨c, call, hwindow⟩
      obtain ⟨old, hold, -⟩ := windowed_deviceAbort.mp hwindow
      exact ⟨c, old, hold⟩
  · intro c call hwindow _
    obtain ⟨old, hold, -⟩ := windowed_deviceAbort.mp hwindow
    exact Bool.or_eq_true_iff.mpr (.inr (h.mark.mpr ⟨c, old, hold⟩))
  · intro habort
    have hmark : s.inFlight = true := by
      rcases Bool.or_eq_true_iff.mp habort with hold | hnew
      · obtain ⟨c, call, hwindow, -⟩ := h.flag hold
        exact h.mark.mpr ⟨c, call, hwindow⟩
      · exact hnew
    obtain ⟨c, old, hold⟩ := h.mark.mp hmark
    refine ⟨c, old.mark s.inFlight, windowed_deviceAbort.mpr ⟨old, hold, rfl⟩, ?_⟩
    rw [hmark]
    exact mark_delivered hold.2
  · intro c call hcalls hphase
    obtain ⟨old, hold, rfl⟩ := deviceAbort_calls hcalls
    rw [Call.mark_phase] at hphase
    have hsame : old.mark s.inFlight = old := if_neg (by rw [hphase]; nofun)
    rw [hsame]
    exact h.blamed c old hold hphase
  · intro c call hcalls hphase
    obtain ⟨old, hold, rfl⟩ := deviceAbort_calls hcalls
    rw [Call.mark_phase] at hphase
    rw [Call.mark_inProgress (by rw [hphase]; rfl)]
    simp [hphase, h.clear c old hold hphase, CallPhase.windowOpen]

private theorem Windows.transact (h : s.Windows) (hwas : s.Windowed c call) :
    (s.transact c call).Windows := by
  unfold LinkCalls.transact
  exact h.put_open hwas (by rfl) (by rfl) _

/-- The top of a loop: an abort that is found there is the call's own. -/
private theorem Windows.loopTop (h : s.Windows) (hwas : s.Windowed c call) (expired : Bool) :
    (s.loopTop c call expired).Windows := by
  have honly : ∀ c' call', s.Windowed c' call' → c' = c := fun c' call' hother =>
    h.one c' c call' call hother hwas
  unfold LinkCalls.loopTop
  split
  · rename_i habort
    exact h.finish honly fun _ => h.delivered hwas habort
  · split
    · exact h.finish honly nofun
    · exact h.transact hwas

/-- The end of a call: it answers an abort only if the flag is up, and then the abort is its own. -/
private theorem Windows.finish_result (h : s.Windows) (hwas : s.Windowed c call) (tests : Bool)
    (error : PlainError) : (s.finish c call (s.result tests error)).Windows := by
  refine h.finish (fun c' call' hother => h.one c' c call' call hother hwas) fun hresult => ?_
  unfold result at hresult
  split at hresult
  · rename_i habort
    exact h.delivered hwas (Bool.and_eq_true_iff.mp habort).2
  · exact absurd hresult error.2

private theorem Windows.enter {admission : Admission} (h : s.Windows)
    (hwas : ∀ call, ¬ s.Windowed c call) (hfresh : call.delivered = false)
    (hnone : admission.opens call.procedure = true → ∀ c call, ¬ s.Windowed c call) :
    (s.enter c call admission).Windows := by
  cases admission with
  | passed =>
    have hnone := hnone rfl
    unfold LinkCalls.enter
    dsimp only
    split
    · exact h.finish (fun c' call' hother => absurd hother (hnone c' call')) nofun
    · exact h.open hnone rfl hfresh
  | waits =>
    unfold LinkCalls.enter
    dsimp only
    split
    · rename_i hlock
      exact h.open (hnone (by rw [hlock]; rfl)) rfl hfresh
    · exact h.put_closed hwas rfl nofun hfresh
  | answered error =>
    exact h.put_closed hwas rfl (fun hphase => error.2 (CallPhase.returned.inj hphase)) hfresh
  | answeredInside error tests =>
    have hnone := hnone rfl
    refine h.finish (fun c' call' hother => absurd hother (hnone c' call')) fun hresult => ?_
    rw [result, h.not_aborted hnone, Bool.and_false] at hresult
    exact absurd hresult error.2

theorem step_windows (h : s.Windows) (hg : s.oneWindow a) (hstep : s.step a = some s') :
    s'.Windows := by
  cases step_effect hstep with
  | start hnew =>
    exact h.enter (fun _ hwindow => absurd (hnew.symm.trans hwindow.1) nofun) rfl hg
  | @admitted c call admission hcall hgate =>
    refine h.enter ?_ (h.clear c call hcall hgate) (hg call hcall)
    rintro call' ⟨hcall', hopen⟩
    obtain rfl := Option.some.inj (hcall.symm.trans hcall')
    rw [hgate] at hopen
    cases hopen
  | loop expired hcall hphase =>
    exact h.loopTop ⟨hcall, by rcases hphase with hp | hp | hp <;> rw [hp] <;> rfl⟩ expired
  | transact hcall hphase =>
    exact h.transact ⟨hcall, by rw [hphase]; rfl⟩
  | pause hcall hphase =>
    exact h.put_open ⟨hcall, by rw [hphase]; rfl⟩ (by rfl) (by rfl) s.bus
  | done tests error hcall hphase =>
    exact h.finish_result ⟨hcall, by rcases hphase with hp | hp <;> rw [hp] <;> rfl⟩ _ _
  | @lockAbort c call hcall hphase habort =>
    have hwas : s.Windowed c call := ⟨hcall, by rw [hphase]; rfl⟩
    have hpermit : Windows { s with permit := false } :=
      ⟨h.one, h.mark, h.kept, h.flag, h.blamed, h.clear⟩
    exact hpermit.finish (fun c' call' hother => h.one c' c call' call hother hwas)
      fun _ => h.delivered hwas habort
  | lockIdle => exact ⟨h.one, h.mark, h.kept, h.flag, h.blamed, h.clear⟩
  | lockDone error hcall hphase =>
    exact h.finish_result ⟨hcall, by rw [hphase]; rfl⟩ false error
  | abort => exact h.abort
  | bus => exact ⟨h.one, h.mark, h.kept, h.flag, h.blamed, h.clear⟩

theorem reach_windows (h : Reach step oneWindow {} s) : s.Windows :=
  h.invariant windows_start fun _ _ _ hwindows hg hstep => step_windows hwindows hg hstep

/-- Besides, an abort is accepted only while no call waits at the gate. -/
def noneAtGate (s : LinkCalls) (a : CallAction) : Prop :=
  s.oneWindow a ∧ (a = .abort → s.inFlight = true →
    ∀ c call, s.calls c = some call → call.phase ≠ .gate)

/-- An abort accepted during a call found its window open. -/
def Heard (call : Call) : Prop := call.accepted = true → call.delivered = true

theorem step_heard (h : Each Heard s) (hg : s.noneAtGate a) (hstep : s.step a = some s') :
    Each Heard s' := by
  cases step_effect hstep with
  | start => exact h.enter fun _ haccepted => nomatch haccepted
  | admitted hcall =>
    have hheard := h _ _ hcall
    exact h.enter fun _ => hheard
  | loop _ hcall =>
    have hheard := h _ _ hcall
    exact h.loopTop (fun _ => hheard) (fun _ => hheard) fun _ => h.put hheard
  | transact hcall | pause hcall | done _ _ hcall | lockAbort hcall | lockDone _ hcall =>
    have hheard := h _ _ hcall
    exact h.put hheard
  | lockIdle | bus => exact h
  | abort =>
    refine Each.deviceAbort fun c call hcall haccepted => ?_
    by_cases hphase : call.phase.inProgress = true
    · rw [Call.mark_inProgress hphase] at haccepted ⊢
      rcases Bool.or_eq_true_iff.mp haccepted with hbefore | hnow
      · exact Bool.or_eq_true_iff.mpr (.inl (h c call hcall hbefore))
      · have hgate := hg.2 rfl hnow c call hcall
        have hopen : call.phase.windowOpen = true := by
          cases hp : call.phase <;> rw [hp] at hphase hgate <;>
            first | rfl | exact absurd rfl hgate | cases hphase
        exact Bool.or_eq_true_iff.mpr (.inr (Bool.and_eq_true_iff.mpr ⟨hnow, hopen⟩))
    · rw [Call.mark, if_neg hphase] at haccepted ⊢
      exact h c call hcall haccepted

/-- In every run in which windows do not overlap, a call answers an abort only if one was accepted
while its window was open, an open window can be aborted, and the abort that was delivered to it
stands until it ends. If also no abort is accepted while a call waits at the gate, this is so of
every abort accepted during a call. -/
theorem aborts_stay_with_their_calls (hreach : Reach step oneWindow {} s)
    (hcall : s.calls c = some call) :
    (call.phase = .returned .abort → call.delivered = true) ∧
    (call.phase.windowOpen = true → s.inFlight = true) ∧
    (call.phase.windowOpen = true → call.delivered = true → s.aborted = true) ∧
    (Reach step noneAtGate {} s → call.phase.inProgress = true → call.accepted = true →
      s.aborted = true) := by
  have h := reach_windows hreach
  refine ⟨h.blamed c call hcall, fun hopen => h.mark.mpr ⟨c, call, hcall, hopen⟩,
    fun hopen => h.kept c call ⟨hcall, hopen⟩, fun hreach hphase haccepted => ?_⟩
  have hheard : Each Heard s := hreach.invariant Each.start
    fun _ _ _ hheard hg hstep => step_heard hheard hg hstep
  have hdelivered := hheard c call hcall haccepted
  refine h.kept c call ⟨hcall, ?_⟩ hdelivered
  cases hp : call.phase with
  | gate => exact absurd hdelivered (by rw [h.clear c call hcall hp]; nofun)
  | returned => rw [hp] at hphase; cases hphase
  | _ => rfl

/-- A write on the bus is aborted: the flag is up while it is there. -/
theorem abort_of_write_stands : ∃ s, Reach step oneWindow {} s ∧ ∃ call, s.calls 1 = some call ∧
    call.phase = .onBus ∧ s.inFlight = true ∧ s.aborted = true := by
  have hbus : Reach step oneWindow {} _ :=
    (Reach.refl.tail (a := .start 1 .deviceWrite .passed)
      (fun _ _ _ hwindow => (nomatch hwindow.1)) rfl).tail (a := .acquire 1 false) trivial rfl
  have hrun := hbus.tail (a := .abort) (by trivial) rfl
  obtain ⟨-, hmark, hkept, -⟩ := aborts_stay_with_their_calls hrun (c := 1) rfl
  exact ⟨_, hrun, _, rfl, rfl, hmark rfl, hkept rfl rfl⟩

/-- A status poll and a write have their windows open when the link is aborted. The end of the poll
takes the write's abort with it, and no later abort would be accepted for the write either. Or a
lock request is made after the abort, and its wait ends with it. -/
theorem poll_takes_abort_of_write :
    (∃ s, Reach step anyStep {} s ∧ ∃ call, s.calls 2 = some call ∧
      call.phase.windowOpen = true ∧ call.delivered = true ∧ s.aborted = false ∧
      s.inFlight = false) ∧
    ∃ s, Reach step anyStep {} s ∧ ∃ call, s.calls 2 = some call ∧
      call.phase = .returned .abort ∧ call.accepted = false := by
  constructor
  · obtain ⟨s, hreach, htest⟩ := exists_reach_of_exec step {}
      (fun s => (s.calls 2).any (fun call => call.phase.windowOpen && call.delivered) &&
        !s.aborted && !s.inFlight)
      [.start 1 .deviceReadstb .passed, .acquire 1 false, .start 2 .deviceWrite .passed, .abort,
        .complete 1 (.done ⟨.noError, by decide⟩)] (by decide +kernel)
    simp only [Bool.and_eq_true, Bool.not_eq_true', Option.any_eq_true] at htest
    obtain ⟨⟨⟨call, hcall, hopen, hdelivered⟩, hflag⟩, hmark⟩ := htest
    exact ⟨s, hreach, call, hcall, hopen, hdelivered, hflag, hmark⟩
  · obtain ⟨s, hreach, htest⟩ := exists_reach_of_exec step {}
      (fun s => (s.calls 2).any (fun call => call.phase = .returned .abort ∧ call.accepted = false))
      [.start 1 .deviceReadstb .passed, .acquire 1 false, .abort, .start 2 .deviceLock .waits,
        .lockWake 2] (by decide +kernel)
    obtain ⟨call, hcall, hblamed⟩ := (Option.any_eq_true ..).mp htest
    exact ⟨s, hreach, call, hcall, of_decide_eq_true hblamed⟩

end LinkCalls
end Ugpibd.Vxi11.Abort
