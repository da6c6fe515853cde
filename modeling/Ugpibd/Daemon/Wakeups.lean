import Ugpibd.Daemon.Tasks
import Ugpibd.Library.Notify

/-! Waiting for locks. A task that waits in `request` or at the gate has subscribed to the
registry's broadcast; only releases broadcast, and a grant can give access as well. -/
namespace Ugpibd.Daemon
open Frontend Library

/-- What a task waits for: a lock it asked for, or access for an operation. -/
inductive Wait
  | lock (resource : String) (holder : HolderId) (lockString : String)
  | access (op : Op)
  deriving DecidableEq, Repr

namespace State
variable {s s' : State} {a : Action}

/-- What a task waits for, with the broadcasts made when it subscribed. -/
def waiting (s : State) (t : Nat) : Option (Nat × Wait) :=
  match s.tasks t with
  | .requesting resource holder lockString snapshot =>
    some (snapshot, .lock resource holder lockString)
  | .parked op snapshot => some (snapshot, .access op)
  | .idle | .queued .. | .onBus .. => none

/-- What the task waits for could be had now. -/
def ready (s : State) : Wait → Bool
  | .lock resource holder lockString => (s.locks.tryRequest resource holder lockString).1.isSome
  | .access op => op.mayProceed s.locks

def notify : Notify State Nat Wait where
  broadcasts s := s.locks.released
  waiting := waiting
  ready s w := s.ready w = true

/-- A lock is granted to a holder whose own traffic is parked on that resource un-woken. -/
def GrantsOwnParked (s : State) (a : Action) : Prop :=
  ∃ tried response locks, s.attempt a = some tried ∧
    s.locks.tryRequest tried.resource tried.holder tried.lockString = (some response, locks) ∧
    ∃ t op pad, s.tasks t = .parked op s.locks.released ∧ op.holder = some tried.holder ∧
      op.pad = some pad ∧ resourceKey pad = tried.resource

theorem waiting_put (t : Nat) (task : Task) (t' : Nat) :
    (s.put t task).waiting t' = if t' = t then (s.put t task).waiting t else s.waiting t' := by
  by_cases h : t' = t
  · rw [h, if_pos rfl]
  · rw [if_neg h, waiting, waiting, put_tasks_ne h]

/-- A grant gives access to nobody but its own holder. -/
theorem granted_not_mayProceed {reg reg' : LockRegistry} {resource : String} {holder : HolderId}
    {lockString : String} {response : LockResponse} {op : Op}
    (hr : reg.tryRequest resource holder lockString = (some response, reg'))
    (hno : op.mayProceed reg = false)
    (hother : ∀ pad, op.holder = some holder → op.pad = some pad → resourceKey pad ≠ resource) :
    op.mayProceed reg' = false := by
  unfold Op.mayProceed at hno ⊢
  split at hno
  · rename_i g pad hg hpad
    rw [Bool.eq_false_iff, ne_eq, LockRegistry.hasAccess_iff] at hno ⊢
    obtain ⟨hnot, hsome⟩ := not_or.mp hno
    rintro (hheld | hnone)
    · rcases (LockRegistry.granted_holds hr).mp hheld with hheld | ⟨hres, rfl⟩
      · exact hnot hheld
      · exact hother pad hg hpad hres
    · refine hsome fun o => Bool.eq_false_iff.mpr fun ho => ?_
      have := (LockRegistry.granted_holds hr).mpr (.inl ho)
      rw [hnone o] at this
      cases this
  · cases hno

/-- A turn that leaves the registry alone loses no wake-up: its task stops waiting, or has just
subscribed and tested. -/
private theorem put_noLostWakeup (h : notify.NoLostWakeup s) (t : Nat) (task : Task)
    (bus : Option Nat) (htask : ∀ snapshot w, (s.put t task).waiting t = some (snapshot, w) →
      snapshot = s.locks.released ∧ s.ready w = false) :
    notify.NoLostWakeup { s.put t task with bus } := by
  refine h.step (Nat.le_refl _) (fun t' snapshot w hw => ?_) ?_
  · change (s.put t task).waiting t' = _ at hw
    rw [waiting_put] at hw
    split at hw
    · obtain ⟨hs, hr⟩ := htask snapshot w hw
      refine .inr ⟨hs, ?_⟩
      change ¬s.ready w = true
      simp [hr]
    · exact .inl hw
  · intro _ t' snapshot w _ _ _ hr
    exact hr

/-- The registry alone changes, and with it nothing that an un-woken task waits for. -/
private theorem locks_noLostWakeup {locks : LockRegistry} (h : notify.NoLostWakeup s)
    (hmono : s.locks.released ≤ locks.released)
    (hkeep : locks.released = s.locks.released → ∀ t w,
      s.waiting t = some (s.locks.released, w) → s.ready w = false →
      State.ready { s with locks } w = false) :
    notify.NoLostWakeup { s with locks } := by
  refine h.step hmono (fun _ _ _ hw => .inl hw) ?_
  rintro heq t snapshot w hw - rfl hr
  change ¬State.ready { s with locks } w = true
  rw [hkeep heq t w hw (Bool.eq_false_iff.mpr hr)]
  exact Bool.false_ne_true

/-- One step loses no wake-up unless it grants a lock to a holder whose own traffic is parked. -/
theorem step_noLostWakeup (hne : s.locks.NoEmptyTable) (h : notify.NoLostWakeup s)
    (hg : ¬s.GrantsOwnParked a) (hstep : s.step a = some s') : notify.NoLostWakeup s' := by
  cases step_effect hstep with
  | granted tried response locks hat hr =>
    have hrel := LockRegistry.granted_released hr
    have hlocks : notify.NoLostWakeup { s with locks } := by
      refine locks_noLostWakeup h hrel.symm.le fun _ t w hw hnot => ?_
      cases w with
      | lock resource holder lockString =>
        simp only [ready, Option.isSome_eq_false_iff, Option.isNone_iff_eq_none] at hnot ⊢
        exact LockRegistry.granted_keeps_refused hr hnot
      | access op =>
        have ht : s.tasks t = .parked op s.locks.released := by
          unfold waiting at hw
          split at hw <;> simp_all
        refine granted_not_mayProceed hr hnot fun pad hh hp hres => hg ?_
        exact ⟨tried, response, locks, hat, hr, t, op, pad, ht, hh, hp, hres⟩
    exact put_noLostWakeup hlocks tried.task .idle s.bus (by simp [waiting])
  | refused tried locks task _ hr htask =>
    obtain rfl := LockRegistry.tryRequest_refused hne hr
    refine put_noLostWakeup h tried.task task s.bus fun snapshot w hw => ?_
    rcases htask with rfl | rfl
    · simp [waiting] at hw
    · simp only [waiting, put_tasks_self, Option.some.injEq, Prod.mk.injEq] at hw
      obtain ⟨rfl, rfl⟩ := hw
      exact ⟨rfl, by simp [ready, hr]⟩
  | release resource holder =>
    cases hr : s.locks.release resource holder with
    | mk response locks =>
      obtain ⟨-, rfl, -⟩ | ⟨_, _, _, _, hrel, _⟩ := LockRegistry.release_cases hr
      · exact h
      · exact locks_noLostWakeup h (by simp only; omega) fun heq => by simp only at heq; omega
  | releaseAll holder =>
    rcases LockRegistry.releaseAll_released s.locks holder with hrel | ⟨-, hfree⟩
    · exact locks_noLostWakeup h (by omega) fun heq => by omega
    · rw [LockRegistry.releaseAll_of_not_holds hne hfree]
      exact h
  | queued t op _ _ => exact put_noLostWakeup h t _ s.bus (by simp [waiting])
  | parked t op hno _ =>
    refine put_noLostWakeup h t _ s.bus fun snapshot w hw => ?_
    simp only [waiting, put_tasks_self, Option.some.injEq, Prod.mk.injEq] at hw
    obtain ⟨rfl, rfl⟩ := hw
    exact ⟨rfl, hno⟩
  | idle t bus => exact put_noLostWakeup h t .idle bus (by simp [waiting])
  | acquired t op _ _ call point _ _ =>
    exact put_noLostWakeup h t (.onBus op (some call) point) (some t) (by simp [waiting])
  | next t op _ _ _ _ call point _ _ => exact put_noLostWakeup h t _ s.bus (by simp [waiting])
  | rejoin t op _ _ _ _ call point _ _ =>
    exact put_noLostWakeup h t (.queued op (some (call, point))) none (by simp [waiting])

/-- The steps that grant no lock to a holder whose own traffic is parked un-woken. -/
def sparesOwnParked (s : State) (a : Action) : Prop := ¬s.GrantsOwnParked a

/-- In every run without a grant to a holder whose own traffic is parked un-woken, a task whose
lock could be granted or whose holder has access has a wake-up pending. -/
theorem ready_task_has_wakeup (h : Reach step sparesOwnParked {} s) :
    ∀ t snapshot w, s.waiting t = some (snapshot, w) → s.ready w = true →
      snapshot < s.locks.released := by
  suffices hinv : s.locks.NoEmptyTable ∧ notify.NoLostWakeup s by
    intro t snapshot w hw hr
    exact (hinv.2 t snapshot w hw).2 hr
  refine Reach.invariant (P := fun s => s.locks.NoEmptyTable ∧ notify.NoLostWakeup s) h ?_ ?_
  · refine ⟨LockRegistry.noEmptyTable_default, fun t snapshot w hw => ?_⟩
    simp [notify, waiting] at hw
  · rintro s a s' ⟨hne, hno⟩ hg hstep
    exact ⟨step_noEmptyTable hstep hne, step_noLostWakeup hne hno hg hstep⟩

/-- A command of session 1 for the instrument at address 5. -/
def parkedCommand : Op := .hislip 1 5 (.execute [42, 73, 68, 78, 63] true)

theorem ready_task_has_wakeup_behind_exclusive :
    ∃ s, Reach step sparesOwnParked {} s ∧ s.waiting 1 = some (0, .access parkedCommand) ∧
      (s.ready (.access parkedCommand) = true → 0 < s.locks.released) := by
  let locked := (State.tryLock {} 0 "gpib5" (hislipId 2) "" false)
  let parked := locked.passGate 1 parkedCommand false
  have hfirst : sparesOwnParked {} (.request 0 "gpib5" (hislipId 2) "" false) := by
    rintro ⟨_, _, _, _, _, t, op, pad, ht, _⟩
    cases ht
  have hsecond : locked.sparesOwnParked (.start 1 parkedCommand false) := by
    rintro ⟨_, _, _, hat, _⟩
    cases hat
  have hreach : Reach step sparesOwnParked {} parked :=
    (Reach.refl.tail hfirst rfl).tail hsecond rfl
  have hwait : parked.waiting 1 = some (0, .access parkedCommand) := by decide
  exact ⟨parked, hreach, hwait, ready_task_has_wakeup hreach 1 0 _ hwait⟩

/-- Session 2 shares the instrument, session 1's command parks, and session 1 then joins the
sharing on its other channel: it has access now and nobody will tell the parked task. -/
theorem own_shared_grant_leaves_command_parked :
    ∃ s, Reach step anyStep {} s ∧ s.waiting 1 = some (s.locks.released, .access parkedCommand) ∧
      s.ready (.access parkedCommand) = true := by
  obtain ⟨s, hreach, htest⟩ := exists_reach_of_exec step {}
    (fun s => s.waiting 1 == some (s.locks.released, .access parkedCommand) &&
      s.ready (.access parkedCommand))
    [.request 0 "gpib5" (hislipId 2) "bench" false, .start 1 parkedCommand false,
      .request 2 "gpib5" (hislipId 1) "bench" false] (by decide)
  exact ⟨s, hreach, by simpa using htest⟩

end State
end Ugpibd.Daemon
