import Mathlib.Order.Basic

/-! Waiting on a broadcast. A waiter subscribes, tests its condition and waits; a broadcast
wakes everybody who subscribed before it. -/
namespace Ugpibd.Library

variable {σ ι ω : Type*}

/-- A system of waiters: how many broadcasts there have been, who waits for what since which
broadcast, and when what is waited for is there. -/
structure Notify (σ ι ω : Type*) where
  broadcasts : σ → Nat
  waiting : σ → ι → Option (Nat × ω)
  ready : σ → ω → Prop

namespace Notify
variable {s t : σ}

/-- Nobody waits for what is there already without a wake-up on the way. -/
def NoLostWakeup (n : Notify σ ι ω) (s : σ) : Prop :=
  ∀ i snapshot w, n.waiting s i = some (snapshot, w) →
    snapshot ≤ n.broadcasts s ∧ (n.ready s w → snapshot < n.broadcasts s)

/-- Who subscribes before testing loses no wake-up, as long as a step that makes somebody's
condition true is also a broadcast. -/
theorem NoLostWakeup.step {n : Notify σ ι ω} (h : n.NoLostWakeup s) (hmono : n.broadcasts s ≤ n.broadcasts t)
    (hnew : ∀ i snapshot w, n.waiting t i = some (snapshot, w) →
      n.waiting s i = some (snapshot, w) ∨ (snapshot = n.broadcasts t ∧ ¬n.ready t w))
    (hkeep : n.broadcasts t = n.broadcasts s → ∀ i snapshot w,
      n.waiting s i = some (snapshot, w) → n.waiting t i = some (snapshot, w) →
      snapshot = n.broadcasts s → ¬n.ready s w → ¬n.ready t w) :
    n.NoLostWakeup t := by
  intro i snapshot w hw
  rcases hnew i snapshot w hw with hold | ⟨rfl, hnot⟩
  · obtain ⟨hle, hwoken⟩ := h i snapshot w hold
    refine ⟨Nat.le_trans hle hmono, fun hready => ?_⟩
    rcases Nat.lt_or_ge snapshot (n.broadcasts t) with hlt | hge
    · exact hlt
    · -- no broadcast since the subscription, so the condition was false and has stayed so
      have hsame : snapshot = n.broadcasts s := by omega
      have heq : n.broadcasts t = n.broadcasts s := by omega
      have hfalse : ¬n.ready s w := fun hr => absurd (hwoken hr) (by omega)
      exact absurd hready (hkeep heq i snapshot w hold hw hsame hfalse)
  · exact ⟨Nat.le_refl _, fun hready => absurd hready hnot⟩

end Notify
end Ugpibd.Library
