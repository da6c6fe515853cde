import Ugpibd.Daemon.Tasks
import Ugpibd.Daemon.BusTraffic

/-! The gate and the bus. An operation is covered while its holder has a lock on the instrument
or nobody has; the gate checks this before the bus is awaited, not after. -/
namespace Ugpibd.Daemon
open Frontend Library

/-- Whoever the operation runs for holds a lock on the instrument it addresses, or nobody does. -/
def Op.Covered (op : Op) (locks : LockRegistry) : Prop :=
  ∀ pad, op.target = some pad →
    (∃ holder, op.holder = some holder ∧ locks.holds (resourceKey pad) holder = true) ∨
    ∀ other, locks.holds (resourceKey pad) other = false

theorem Op.covered_of_mayProceed {op : Op} {locks : LockRegistry} (hg : op.gated = true)
    (h : op.mayProceed locks = true) : op.Covered locks := by
  obtain ⟨holder, pad, hh, hp, ht⟩ := Op.gated_target hg
  intro pad' hpad'
  obtain rfl : pad = pad' := Option.some.inj (ht.symm.trans hpad')
  simp only [Op.mayProceed, hh, hp, LockRegistry.hasAccess_iff] at h
  exact h.imp_left fun hheld => ⟨holder, hh, hheld⟩

namespace State
variable {s s' : State} {a : Action} {op : Op} {t : Nat}

/-- The step takes no cover from the operation: a lock on its instrument goes to its own holder
or to one it shares with, and its holder gives up its last lock only where nobody else has one. -/
structure Spares (s : State) (a : Action) (op : Op) : Prop where
  grant : ∀ tried response locks pad, s.attempt a = some tried →
    s.locks.tryRequest tried.resource tried.holder tried.lockString = (some response, locks) →
    op.target = some pad → resourceKey pad = tried.resource → op.holder = some tried.holder ∨
      ∃ holder, op.holder = some holder ∧ s.locks.holds (resourceKey pad) holder = true
  release : ∀ pad holder, a = .release (resourceKey pad) holder → op.target = some pad →
    op.holder = some holder →
      (s.locks.release (resourceKey pad) holder).2.holds (resourceKey pad) holder = true ∨
      ∀ other, other ≠ holder → s.locks.holds (resourceKey pad) other = false
  releaseAll : ∀ pad holder, a = .releaseAll holder → op.target = some pad →
    op.holder = some holder →
      ∀ other, other ≠ holder → s.locks.holds (resourceKey pad) other = false

private theorem covered_grant {tried : Attempt} {response : LockResponse} {locks : LockRegistry}
    (hs : s.Spares a op) (h : op.Covered s.locks) (hat : s.attempt a = some tried)
    (hr : s.locks.tryRequest tried.resource tried.holder tried.lockString = (some response, locks)) :
    op.Covered locks := by
  intro pad hpad
  by_cases hres : resourceKey pad = tried.resource
  · rcases hs.grant tried response locks pad hat hr hpad hres with hown | ⟨holder, hh, hheld⟩
    · exact .inl ⟨_, hown, (LockRegistry.granted_holds hr).mpr (.inr ⟨hres, rfl⟩)⟩
    · exact .inl ⟨holder, hh, (LockRegistry.granted_holds hr).mpr (.inl hheld)⟩
  · simp only [Bool.eq_false_iff, ne_eq, LockRegistry.granted_holds hr, hres, false_and, or_false]
    simpa only [Bool.eq_false_iff] using h pad hpad

private theorem covered_release {resource : String} {holder : HolderId}
    (hs : s.Spares (.release resource holder) op) (h : op.Covered s.locks) :
    op.Covered (s.locks.release resource holder).2 := by
  intro pad hpad
  cases hr : s.locks.release resource holder with
  | mk response locks =>
    rcases h pad hpad with ⟨g, hg, hheld⟩ | hnone
    · by_cases hown : resourceKey pad = resource ∧ g = holder
      · obtain ⟨rfl, rfl⟩ := hown
        have hkeep := hs.release pad g rfl hpad hg
        rw [hr] at hkeep
        rcases hkeep with hkeep | halone
        · exact .inl ⟨g, hg, hkeep⟩
        · by_cases hstill : locks.holds (resourceKey pad) g = true
          · exact .inl ⟨g, hg, hstill⟩
          · refine .inr fun other => Bool.eq_false_iff.mpr fun ho => ?_
            by_cases hog : other = g
            · exact hstill (hog ▸ ho)
            · rw [LockRegistry.release_holds_other hr (fun h => hog h.2), halone other hog] at ho
              cases ho
      · exact .inl ⟨g, hg, (LockRegistry.release_holds_other hr hown).trans hheld⟩
    · refine .inr fun other => Bool.eq_false_iff.mpr fun ho => ?_
      have := LockRegistry.release_holds_sub hr ho
      rw [hnone other] at this
      cases this

private theorem covered_releaseAll {holder : HolderId} (hs : s.Spares (.releaseAll holder) op)
    (h : op.Covered s.locks) : op.Covered (s.locks.releaseAll holder) := by
  intro pad hpad
  simp only [Bool.eq_false_iff, ne_eq, LockRegistry.releaseAll_holds]
  rcases h pad hpad with ⟨g, hg, hheld⟩ | hnone
  · by_cases hown : g = holder
    · subst hown
      refine .inr fun other ⟨ho, hne⟩ => ?_
      rw [hs.releaseAll pad g rfl hpad hg other hne] at ho
      cases ho
    · exact .inl ⟨g, hg, hheld, hown⟩
  · refine .inr fun other ⟨ho, _⟩ => ?_
    rw [hnone other] at ho
    cases ho

/-- A step that spares an operation leaves it covered. -/
theorem covered_step (hne : s.locks.NoEmptyTable) (hstep : s.step a = some s')
    (hs : s.Spares a op) (h : op.Covered s.locks) : op.Covered s'.locks := by
  cases step_effect hstep with
  | granted tried response locks hat hr => exact covered_grant hs h hat hr
  | refused tried locks task _ hr _ =>
    rw [put_locks, LockRegistry.tryRequest_refused hne hr]
    exact h
  | release resource holder => exact covered_release hs h
  | releaseAll holder => exact covered_releaseAll hs h
  | queued | parked | idle | acquired | next | rejoin => exact h

/-- The steps that spare every gated operation between its gate and the bus. -/
def sparesQueued (s : State) (a : Action) : Prop :=
  ∀ t op tenure, s.tasks t = .queued op tenure → op.gated = true → s.Spares a op

/-- What every state of such a run has: the operations that wait for the bus past their gate are
covered. -/
structure GateHolds (s : State) : Prop where
  noEmptyTable : s.locks.NoEmptyTable
  queued_covered : ∀ t op tenure, s.tasks t = .queued op tenure → op.gated = true →
    op.Covered s.locks

theorem step_gateHolds (h : s.GateHolds) (hs : s.sparesQueued a) (hstep : s.step a = some s') :
    s'.GateHolds where
  noEmptyTable := step_noEmptyTable hstep h.noEmptyTable
  queued_covered := by
    intro t op tenure ht hg
    obtain hold | ⟨hlocks, -, hpass, -⟩ | ⟨-, _, _, _, _, _, _, -, hafter, -⟩ := queued_step hstep ht
    · exact covered_step h.noEmptyTable hstep (hs t op tenure hold hg)
        (h.queued_covered t op tenure hold hg)
    · rw [hlocks]
      rcases hpass with hun | hpass
      · rw [Op.gated, hun] at hg
        cases hg
      · exact Op.covered_of_mayProceed hg hpass
    · rw [Op.after_rejoin_ungated hafter] at hg
      cases hg

/-- In every run whose registry steps spare the gated operations that wait for the bus, a gated
operation that comes onto the bus has a lock on its instrument there, or nobody has. -/
theorem gated_operation_starts_covered {call : Option BusCall} {point : Point}
    (h : Reach step sparesQueued {} s) (hstep : s.step a = some s') (hg : op.gated = true)
    (hbefore : ∀ call point, s.tasks t ≠ .onBus op call point)
    (hafter : s'.tasks t = .onBus op call point) :
    ∃ holder pad, op.holder = some holder ∧ op.pad = some pad ∧
      (s'.locks.holds (resourceKey pad) holder = true ∨
        ∀ other, s'.locks.holds (resourceKey pad) other = false) := by
  have hgate : s.GateHolds := by
    refine h.invariant ⟨LockRegistry.noEmptyTable_default, ?_⟩
      fun s a s' hgate hs hstep => step_gateHolds hgate hs hstep
    intro t op tenure ht
    cases ht
  obtain hold | ⟨hlocks, tenure, _, _, hq, -⟩ | ⟨-, was, point', _, _, hold, -⟩ := onBus_step hstep hafter
  · exact absurd hold (hbefore call point)
  · obtain ⟨holder, pad, hh, hp, ht⟩ := Op.gated_target hg
    refine ⟨holder, pad, hh, hp, ?_⟩
    rw [hlocks]
    refine (hgate.queued_covered t op tenure hq hg pad ht).imp_left ?_
    rintro ⟨holder', hh', hheld⟩
    obtain rfl : holder = holder' := Option.some.inj (hh.symm.trans hh')
    exact hheld
  · exact absurd hold (hbefore was point')

/-- A command of session 1 for the instrument at address 5. -/
def gatedCommand : Op := .hislip 1 5 (.execute [42, 73, 68, 78, 63] true)

theorem gated_command_starts_covered :
    ∃ s s', Reach step sparesQueued {} s ∧ s.step (.acquire 1 {}) = some s' ∧
      s'.tasks 1 = .onBus gatedCommand (some (.write 5 [42, 73, 68, 78, 63] true)) .executeWrite ∧
      ∃ holder pad, gatedCommand.holder = some holder ∧ gatedCommand.pad = some pad ∧
        (s'.locks.holds (resourceKey pad) holder = true ∨
          ∀ other, s'.locks.holds (resourceKey pad) other = false) := by
  let locked := State.tryLock {} 0 "gpib5" (hislipId 1) "" false
  let queued := locked.passGate 1 gatedCommand false
  have hfirst : sparesQueued {} (.request 0 "gpib5" (hislipId 1) "" false) := by
    intro t op tenure ht
    cases ht
  have hidle : ∀ t, locked.tasks t = .idle := by
    intro t
    change (State.put _ 0 .idle).tasks t = .idle
    rw [put_tasks]
    exact ite_self _
  have hsecond : locked.sparesQueued (.start 1 gatedCommand false) := by
    intro t op tenure ht
    rw [hidle] at ht
    cases ht
  have hreach : Reach step sparesQueued {} queued :=
    (Reach.refl.tail hfirst rfl).tail hsecond rfl
  refine ⟨queued, _, hreach, rfl, rfl, ?_⟩
  refine gated_operation_starts_covered hreach (a := .acquire 1 {}) (t := 1) rfl rfl ?_ rfl
  intro call point ht
  cases ht

/-- Session 3 is on the bus, session 1's command passes the gate and waits for the bus, session 2
is granted the instrument exclusively, and session 1's command goes out all the same. -/
theorem queued_command_starts_under_foreign_lock :
    ∃ s s', Reach step anyStep {} s ∧ s.step (.acquire 1 {}) = some s' ∧
      s.tasks 1 = .queued gatedCommand none ∧
      s'.tasks 1 = .onBus gatedCommand (some (.write 5 [42, 73, 68, 78, 63] true)) .executeWrite ∧
      gatedCommand.gated = true ∧ s'.locks.holds "gpib5" (hislipId 1) = false ∧
      s'.locks.holds "gpib5" (hislipId 2) = true := by
  obtain ⟨s, hreach, htest⟩ := exists_reach_of_exec step {}
    (fun s => s.tasks 1 == .queued gatedCommand none && s.bus == none &&
      !s.locks.holds "gpib5" (hislipId 1) && s.locks.holds "gpib5" (hislipId 2))
    [.start 0 (.hislip 3 7 .trigger) false, .acquire 0 {}, .start 1 gatedCommand false,
      .request 2 "gpib5" (hislipId 2) "" false, .complete 0 .done {}] (by decide)
  simp only [Bool.and_eq_true, beq_iff_eq, Bool.not_eq_true'] at htest
  obtain ⟨⟨⟨hq, hbus⟩, hno⟩, hyes⟩ := htest
  refine ⟨s, { s.put 1 (.onBus gatedCommand (some (.write 5 [42, 73, 68, 78, 63] true)) .executeWrite)
    with bus := some 1 }, hreach, ?_, hq, by simp, rfl, hno, hyes⟩
  simp [step, hq, hbus, gatedCommand, Op.first, HislipOp.first]

end State
end Ugpibd.Daemon
