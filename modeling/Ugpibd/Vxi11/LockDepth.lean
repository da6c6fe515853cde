import Ugpibd.Frontend.LockSingle
import Ugpibd.Vxi11.LinkSteps

/-! VXI-11 locks do not nest, though the registry does: `device_lock` asks whether its link holds
the lock before it waits, and its request is granted on top of whatever came between. -/
namespace Ugpibd.Vxi11
open Frontend Library

namespace Shared
variable {s s' : Shared} {a : Action} {lid : Int32}

/-- The steps that ask for a lock only on behalf of a link without one there. -/
def asksUnheld (s : Shared) (a : Action) : Prop :=
  ∀ link, s.requests a = some link → s.locks.holds link.resource link.holder = false

/-- A `device_lock` or `create_link` of a link with this id gets its lock in this step. -/
def lockSucceeds (s : Shared) (lid : Int32) (a : Action) : Prop :=
  ∃ link, s.requests a = some link ∧ link.lid = lid ∧ s.grants link = true

/-- No VXI-11 id nests or shares. -/
structure Unnested (s : Shared) : Prop where
  noEmptyTable : s.locks.NoEmptyTable
  single : ∀ resource (lid : Int32), (s.locks.table resource).Single (vxi11Id lid)

theorem unnested_default (maxRecvSize : UInt32) (maxLinks : Nat) (abortPort : UInt16) :
    Unnested { maxRecvSize, maxLinks, abortPort } where
  noEmptyTable := LockRegistry.noEmptyTable_default
  single := by
    intro resource lid
    simpa [LockRegistry.table] using LockTable.single_default (vxi11Id lid)

/-- One step nests no lock, as long as none is asked for by a link that has it. -/
theorem step_unnested (h : s.Unnested) (hg : s.asksUnheld a) (hstep : s.step a = some s') :
    s'.Unnested := by
  refine ⟨step_noEmptyTable h.noEmptyTable hstep, fun resource lid => ?_⟩
  obtain ⟨link, hreq, hlocks⟩ | ⟨ops, hlocks, hops⟩ := step_locks hstep
  · rw [hlocks]
    refine LockRegistry.apply_single h.noEmptyTable (h.single resource lid) _ fun lockString heq => ?_
    obtain ⟨rfl, hid, rfl⟩ := LockOp.request.inj heq
    refine ⟨rfl, ?_⟩
    rw [← hid]
    exact hg link hreq
  · rw [hlocks]
    suffices hinv : (ops.foldl (fun locks op => (locks.apply op).2) s.locks).NoEmptyTable ∧
        ((ops.foldl (fun locks op => (locks.apply op).2) s.locks).table resource).Single
          (vxi11Id lid) from hinv.2
    refine List.foldlRecOn (motive := fun locks : LockRegistry => locks.NoEmptyTable ∧
      (locks.table resource).Single (vxi11Id lid)) ops _ ⟨h.noEmptyTable, h.single resource lid⟩ ?_
    rintro locks ⟨hne, hsingle⟩ op hop
    exact ⟨LockRegistry.apply_noEmptyTable hne op, LockRegistry.apply_single hne hsingle op
      fun lockString heq => absurd heq (hops op hop resource lid lockString)⟩

/-- A step in which no link with this id is granted its lock gives the id none. -/
theorem step_not_holds (hne : s.locks.NoEmptyTable) {resource : String}
    (hfree : s.locks.holds resource (vxi11Id lid) = false) (hg : ¬s.lockSucceeds lid a)
    (hstep : s.step a = some s') : s'.locks.holds resource (vxi11Id lid) = false := by
  rw [← Bool.not_eq_true] at hfree ⊢
  intro hheld
  obtain ⟨link, hreq, hlocks⟩ | ⟨ops, hlocks, hops⟩ := step_locks hstep
  · rw [hlocks] at hheld
    simp only [LockRegistry.apply] at hheld
    cases hr : s.locks.tryRequest link.resource link.holder "" with
    | mk answer locks =>
      rw [hr] at hheld
      cases answer with
      | none => exact hfree (by rwa [LockRegistry.tryRequest_refused hne hr] at hheld)
      | some response =>
        rcases (LockRegistry.granted_holds hr).mp hheld with hheld | ⟨-, hid⟩
        · exact hfree hheld
        · exact hg ⟨link, hreq, (vxi11Id_injective hid).symm, by simp [grants, hr]⟩
  · rw [hlocks] at hheld
    have hsub := List.foldlRecOn (motive := fun locks : LockRegistry => locks.NoEmptyTable ∧
      (locks.holds resource (vxi11Id lid) = true → s.locks.holds resource (vxi11Id lid) = true))
      ops (fun locks op => (locks.apply op).2) ⟨hne, id⟩
      fun locks hboth op hop => ⟨LockRegistry.apply_noEmptyTable hboth.1 op, fun hheld =>
        hboth.2 (LockRegistry.apply_holds_sub hboth.1 (hops op hop resource lid) hheld)⟩
    exact hfree (hsub.2 hheld)

private theorem step_deviceUnlock {c : Nat} {expired : Bool}
    (h : s.step (.call c (.deviceUnlock lid) expired) = some s')
    (hreply : (s'.conns c).phase = .replying (.deviceError .noError)) :
    ∃ link, s.links[lid]? = some link ∧
      s'.locks = (s.locks.release link.resource link.holder).2 := by
  simp only [step] at h
  split at h
  · obtain rfl := Option.some.inj h
    simp only [dispatch] at hreply ⊢
    cases hlink : s.links[lid]? with
    | none =>
      simp only [hlink, reply, setPhase_phase, if_true] at hreply
      cases hreply
    | some link =>
      refine ⟨link, rfl, ?_⟩
      by_cases hheld : s.locks.holds link.resource link.holder = true
      · simp only [hheld, if_true]
        rfl
      · simp only [hlink, hheld, reply, Bool.false_eq_true, if_false, setPhase_phase, if_true]
          at hreply
        cases hreply
  · cases h

/-- In every run in which a lock is asked for only by a link without it, a link's nesting depth is
at most one; and once a `device_unlock` answers success the link holds nothing until its lock is
next granted, in every run from there. -/
theorem vxi11_locks_do_not_nest {maxRecvSize : UInt32} {maxLinks : Nat} {abortPort : UInt16}
    (h : Reach step asksUnheld { maxRecvSize, maxLinks, abortPort } s) :
    (∀ resource (lid : Int32), (s.locks.table resource).levels (vxi11Id lid) ≤ 1) ∧
    ∀ c lid expired s', s.step (.call c (.deviceUnlock lid) expired) = some s' →
      (s'.conns c).phase = .replying (.deviceError .noError) →
      ∃ link, s.links[lid]? = some link ∧
        ∀ t, Reach step (fun s a => ¬s.lockSucceeds link.lid a) s' t →
          t.locks.holds link.resource link.holder = false := by
  have hun : s.Unnested := Reach.invariant h (unnested_default ..)
    fun _ _ _ hun hg hstep => step_unnested hun hg hstep
  refine ⟨fun resource lid => (hun.single resource lid).levels_le_one, ?_⟩
  intro c lid expired s' hstep hreply
  obtain ⟨link, hlink, hlocks⟩ := step_deviceUnlock hstep hreply
  refine ⟨link, hlink, fun t ht => ?_⟩
  have hfree : s'.locks.holds link.resource link.holder = false := by
    rw [hlocks]
    exact LockRegistry.release_holds_of_single (hun.single link.resource link.lid)
  have hinv := Reach.invariant (P := fun t => t.locks.NoEmptyTable ∧
    t.locks.holds link.resource link.holder = false) ht
    ⟨step_noEmptyTable hun.noEmptyTable hstep, hfree⟩
    fun _ _ _ ⟨hne, hfree⟩ hg hstep => ⟨step_noEmptyTable hne hstep,
      step_not_holds hne hfree hg hstep⟩
  exact hinv.2

/-- A link that locks and unlocks holds nothing afterwards. -/
theorem unlocked_link_holds_nothing : ∃ s s' : Shared, Reach step asksUnheld {} s ∧
    s.locks.holds "gpib5" (vxi11Id 1) = true ∧
    s.step (.call 0 (.deviceUnlock 1) false) = some s' ∧
    (s'.conns 0).phase = .replying (.deviceError .noError) ∧
    s'.locks.holds "gpib5" (vxi11Id 1) = false := by
  have hguard : asksUnheld {} (.call 0 (.createLink (.ok (.pad 5)) true) false) := by
    intro link hreq
    obtain rfl := Option.some.inj hreq
    decide
  have hrun : Reach step asksUnheld {} _ := (Reach.refl.tail hguard rfl).tail
    (a := .replied 0 true) nofun rfl
  obtain ⟨link, hlink, hfree⟩ := (vxi11_locks_do_not_nest hrun).2 0 1 false _ rfl rfl
  obtain rfl : (⟨1, .pad 5, 0, 0⟩ : Link) = link :=
    Option.some.inj (Eq.trans (by decide +kernel) hlink)
  have hres : Link.resource ⟨1, .pad 5, 0, 0⟩ = "gpib5" := by decide
  have hfree' := hfree _ .refl
  rw [hres] at hfree'
  exact ⟨_, _, hrun, by decide +kernel, rfl, rfl, hfree'⟩

/-- Two `device_lock` calls on one link wait at the same time, and both are granted: the lock is
nested, and the unlock that answers success leaves it held. -/
theorem waiting_device_locks_nest : ∃ s s' : Shared, Reach step anyStep {} s ∧
    (s.locks.table "gpib5").levels (vxi11Id 1) = 2 ∧
    s.step (.call 0 (.deviceUnlock 1) false) = some s' ∧
    (s'.conns 0).phase = .replying (.deviceError .noError) ∧
    s'.locks.holds "gpib5" (vxi11Id 1) = true := by
  obtain ⟨s, hreach, htest⟩ := exists_reach_of_exec step {}
    (fun s => (s.locks.table "gpib5").levels (vxi11Id 1) == 2 &&
      (s.step (.call 0 (.deviceUnlock 1) false)).any fun s' =>
        (s'.conns 0).phase == .replying (.deviceError .noError) &&
        s'.locks.holds "gpib5" (vxi11Id 1))
    [.call 0 (.createLink (.ok (.pad 5)) false) false, .replied 0 true,
      .session 0 (.request "gpib5" ""), .call 0 (.deviceLock 1 true) false,
      .call 1 (.deviceLock 1 true) false, .session 0 (.release "gpib5"), .lockRetry 0 false,
      .lockRetry 1 false, .replied 0 true] (by decide +kernel)
  simp only [Bool.and_eq_true, beq_iff_eq, Option.any_eq_true] at htest
  obtain ⟨hlevels, s', hstep, hreply, hheld⟩ := htest
  exact ⟨s, s', hreach, hlevels, hstep, hreply, hheld⟩

end Shared
end Ugpibd.Vxi11
