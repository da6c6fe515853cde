import Ugpibd.Backend.NiTimeouts
import Ugpibd.Vxi11.BusSettings

/-! The three tables of adapter timeouts against each other: the NI backend's rounding up and flooring,
and the steps a VXI-11 write floors what is left of its budget to. -/
namespace Ugpibd.Vxi11.BusSettings
open Library Backend NiUsbHs

/-- Each step of a write's budget is one of the adapter's, and the adapter floors it to itself. -/
theorem steps_pass : ∀ step ∈ steps,
    IsStep step ∧ (timeoutCodeFloorWait step).2.toNat = step := by
  decide

theorem adapterFloorMs_mem {remainingMs : Nat} (h : 1 ≤ remainingMs) :
    adapterFloorMs remainingMs ∈ steps ∧ adapterFloorMs remainingMs ≤ remainingMs := by
  have hsome : (steps.find? (· ≤ remainingMs)).isSome :=
    List.find?_isSome.mpr ⟨1, by decide, by simpa using h⟩
  obtain ⟨step, hfind⟩ := Option.isSome_iff_exists.mp hsome
  rw [adapterFloorMs, hfind, Option.getD_some]
  exact ⟨List.mem_of_find?_eq_some hfind, by simpa using List.find?_some hfind⟩

/-- What is left of a write's budget, as the adapter takes it. -/
structure BudgetFloored (remainingMs : Nat) : Prop where
  isStep : IsStep (adapterFloorMs remainingMs)
  le : adapterFloorMs remainingMs ≤ remainingMs
  passes : (timeoutCodeFloorWait (adapterFloorMs remainingMs)).2.toNat = adapterFloorMs remainingMs

theorem budgetFloored {remainingMs : Nat} (h : 1 ≤ remainingMs) : BudgetFloored remainingMs := by
  obtain ⟨hmem, hle⟩ := adapterFloorMs_mem h
  obtain ⟨hstep, hpasses⟩ := steps_pass _ hmem
  exact ⟨hstep, hle, hpasses⟩

end Ugpibd.Vxi11.BusSettings
