import Ugpibd.Daemon.LockGate

/-! Locks against every way onto the bus. Prologix traffic and HiSLIP remote/local control pass
no gate at all, so exclusion also needs them to keep to instruments nobody else has locked. -/
namespace Ugpibd.Daemon
open Frontend Library

namespace State
variable {s s' : State} {a : Action} {op : Op} {t : Nat}

/-- The task is past the gate with this operation: it waits for the bus or has it. -/
def InFlight (s : State) (t : Nat) (op : Op) : Prop :=
  (∃ tenure, s.tasks t = .queued op tenure) ∨ ∃ call point, s.tasks t = .onBus op call point

/-- The steps that start an ungated operation only where it is covered, and spare every operation
in flight; the documented exemptions aside. -/
structure respectsLocks (s : State) (a : Action) : Prop where
  spares : ∀ t op, s.InFlight t op → op.exempt = false → s.Spares a op
  starts : ∀ t op expired, a = .start t op expired → op.gate = .ungated → op.exempt = false →
    op.Covered s.locks

/-- What every state of such a run has. -/
structure Excludes (s : State) : Prop where
  noEmptyTable : s.locks.NoEmptyTable
  parked_gated : ∀ t op snapshot, s.tasks t = .parked op snapshot → op.gated = true
  covered : ∀ t op, s.InFlight t op → op.exempt = false → op.Covered s.locks
  rejoins : ∀ t op call point, s.tasks t = .queued op (some (call, point)) → op.KeepsTo call
  calls : ∀ t op call point, s.tasks t = .onBus op (some call) point → op.KeepsTo call

theorem excludes_default : Excludes {} where
  noEmptyTable := LockRegistry.noEmptyTable_default
  parked_gated := by
    intro t op snapshot ht
    cases ht
  covered := by
    rintro t op (⟨tenure, ht⟩ | ⟨call, point, ht⟩) <;> cases ht
  rejoins := by
    intro t op call point ht
    cases ht
  calls := by
    intro t op call point ht
    cases ht

/-- An operation in flight was in flight before, or has just passed its gate. -/
private theorem inFlight_step (hstep : s.step a = some s') (h : s'.InFlight t op) :
    s.InFlight t op ∨ (s'.locks = s.locks ∧ (op.gate = .ungated ∨ op.mayProceed s.locks = true) ∧
      ((∃ expired, a = .start t op expired) ∨ ∃ snapshot, s.tasks t = .parked op snapshot)) := by
  rcases h with ⟨tenure, ht⟩ | ⟨call, point, ht⟩
  · obtain hold | ⟨hlocks, -, hpass, hfrom⟩ | ⟨-, was, point, _, _, _, _, hold, -⟩ := queued_step hstep ht
    · exact .inl (.inl ⟨tenure, hold⟩)
    · exact .inr ⟨hlocks, hpass, hfrom⟩
    · exact .inl (.inr ⟨was, point, hold⟩)
  · obtain hold | ⟨-, tenure, _, _, hq, -⟩ | ⟨-, was, point', _, _, hold, -⟩ := onBus_step hstep ht
    · exact .inl (.inr ⟨call, point, hold⟩)
    · exact .inl (.inl ⟨tenure, hq⟩)
    · exact .inl (.inr ⟨was, point', hold⟩)

theorem step_excludes (h : s.Excludes) (hs : s.respectsLocks a) (hstep : s.step a = some s') :
    s'.Excludes where
  noEmptyTable := step_noEmptyTable hstep h.noEmptyTable
  parked_gated := by
    intro t op snapshot ht
    rcases parked_step hstep ht with hold | hg
    · exact h.parked_gated t op snapshot hold
    · exact hg
  covered := by
    intro t op hf hx
    obtain hold | ⟨hlocks, hpass, hfrom⟩ := inFlight_step hstep hf
    · exact covered_step h.noEmptyTable hstep (hs.spares t op hold hx) (h.covered t op hold hx)
    · rw [hlocks]
      by_cases hg : op.gated = true
      · rcases hpass with hun | hpass
        · rw [Op.gated, hun] at hg
          cases hg
        · exact Op.covered_of_mayProceed hg hpass
      · rcases hfrom with ⟨expired, ha⟩ | ⟨snapshot, hp⟩
        · exact hs.starts t op expired ha (by simpa [Op.gated] using hg) hx
        · exact absurd (h.parked_gated t op snapshot hp) hg
  rejoins := by
    intro t op call point ht
    obtain hold | ⟨-, hnone, -⟩ | ⟨-, _, _, _, _, _, _, -, hafter, heq⟩ := queued_step hstep ht
    · exact h.rejoins t op call point hold
    · cases hnone
    · cases heq
      exact Op.after_keepsTo (by rw [hafter]; rfl)
  calls := by
    intro t op call point ht
    obtain hold | ⟨-, tenure, choice, called, hq, hc, hcall⟩ | ⟨-, _, _, _, _, -, hafter⟩ :=
      onBus_step hstep ht
    · exact h.calls t op call point hold
    · obtain rfl := Option.some.inj hc
      cases tenure with
      | none => exact Op.first_keepsTo hcall
      | some next =>
        obtain rfl := Option.some.inj hcall
        exact h.rejoins t op call point hq
    · exact Op.after_keepsTo (by rw [hafter]; rfl)

/-- In every run that respects the locks, traffic for an instrument is on the bus only on behalf
of somebody who has a lock there, unless nobody has or the operation is exempt. -/
theorem traffic_respects_locks {call : BusCall} {point : Point} {pad : UInt8}
    (h : Reach step respectsLocks {} s) (ht : s.tasks t = .onBus op (some call) point)
    (hx : op.exempt = false) (htraffic : op.traffic call = some pad) :
    (∃ holder, op.holder = some holder ∧ s.locks.holds (resourceKey pad) holder = true) ∨
      ∀ other, s.locks.holds (resourceKey pad) other = false := by
  have hinv : s.Excludes :=
    h.invariant excludes_default fun s a s' hinv hs hstep => step_excludes hinv hs hstep
  refine hinv.covered t op (.inr ⟨_, _, ht⟩) hx pad ?_
  rcases hinv.calls t op call point ht with hnone | htarget
  · rw [hnone] at htraffic
    cases htraffic
  · rw [← htarget, htraffic]

/-- A Prologix client's line for the instrument at address 5. -/
def prologixLine : Op := .prologix (.forward 5 [42, 82, 83, 84] true false)

theorem prologix_line_respects_locks :
    ∃ s, Reach step respectsLocks {} s ∧
      s.tasks 1 = .onBus prologixLine (some (.write 5 [42, 82, 83, 84] true)) .last ∧
      ((∃ holder, prologixLine.holder = some holder ∧
        s.locks.holds (resourceKey 5) holder = true) ∨
        ∀ other, s.locks.holds (resourceKey 5) other = false) := by
  let queued := State.passGate {} 1 prologixLine false
  let bus : State := { queued.put 1
    (.onBus prologixLine (some (.write 5 [42, 82, 83, 84] true)) .last) with bus := some 1 }
  have hstart : respectsLocks {} (.start 1 prologixLine false) := by
    refine ⟨fun t op hf => ?_, ?_⟩
    · rcases hf with ⟨tenure, ht⟩ | ⟨call, point, ht⟩ <;> cases ht
    · rintro _ _ _ - - - pad -
      exact .inr fun other => by simp [LockRegistry.holds]
  have hacquire : queued.respectsLocks (.acquire 1 {}) := by
    refine ⟨fun t op _ _ => ⟨?_, ?_, ?_⟩, ?_⟩
    · intro tried response locks pad htried
      cases htried
    · intro pad holder hrelease
      cases hrelease
    · intro pad holder hrelease
      cases hrelease
    · intro t op expired hstart
      cases hstart
  have hreach : Reach step respectsLocks {} bus :=
    (Reach.refl.tail hstart rfl).tail hacquire rfl
  exact ⟨bus, hreach, rfl, traffic_respects_locks hreach (t := 1) rfl rfl rfl⟩

/-- Session 2 holds the instrument exclusively and a Prologix client writes to it. -/
theorem prologix_line_ignores_exclusive_lock :
    ∃ s, Reach step anyStep {} s ∧
      s.tasks 1 = .onBus prologixLine (some (.write 5 [42, 82, 83, 84] true)) .last ∧
      prologixLine.exempt = false ∧ prologixLine.traffic (.write 5 [42, 82, 83, 84] true) = some 5 ∧
      prologixLine.holder = none ∧ s.locks.holds "gpib5" (hislipId 2) = true := by
  obtain ⟨s, hreach, htest⟩ := exists_reach_of_exec step {}
    (fun s => s.tasks 1 == .onBus prologixLine (some (.write 5 [42, 82, 83, 84] true)) .last &&
      s.locks.holds "gpib5" (hislipId 2))
    [.request 0 "gpib5" (hislipId 2) "" false, .start 1 prologixLine false, .acquire 1 {}] (by decide)
  simp only [Bool.and_eq_true, beq_iff_eq] at htest
  exact ⟨s, hreach, htest.1, rfl, rfl, rfl, htest.2⟩

end State
end Ugpibd.Daemon
