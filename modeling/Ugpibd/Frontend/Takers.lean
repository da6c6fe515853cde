import Ugpibd.Frontend.HolderIds

/-! Who took the locks in the registry. The program keeps ids only, and ids are used again; a
model that has to say whose lock an id stands for keeps the takers beside the registry. -/
namespace Ugpibd.Frontend

/-- For each resource and holder, those whose requests were granted to make up the lock there. -/
abbrev Takers (α : Type) := String → HolderId → List α

namespace Takers
variable {α : Type} {takers : Takers α} {locks : LockRegistry}
  {granted : Option (α × String × HolderId)} {resource : String} {holder : HolderId} {x : α}

/-- The takers after a registry call: one more where it granted a request, and none where
nothing is held any longer. -/
def update (takers : Takers α) (locks : LockRegistry) (granted : Option (α × String × HolderId)) :
    Takers α :=
  fun resource holder =>
    if locks.holds resource holder then
      match granted with
      | some (x, resource', holder') =>
        if resource' = resource ∧ holder' = holder then x :: takers resource holder
        else takers resource holder
      | none => takers resource holder
    else []

theorem mem_update : x ∈ takers.update locks granted resource holder ↔
    locks.holds resource holder = true ∧
      (x ∈ takers resource holder ∨ granted = some (x, resource, holder)) := by
  unfold update
  split
  · rename_i hheld
    rcases granted with _ | ⟨y, resource', holder'⟩
    · simp [hheld]
    · dsimp only
      split
      · rename_i heq
        obtain ⟨rfl, rfl⟩ := heq
        simp [hheld, eq_comm, or_comm]
      · rename_i hne
        have : ¬(y = x ∧ resource' = resource ∧ holder' = holder) := fun h => hne h.2
        simp [hheld, this]
  · rename_i hno
    simp [hno]

theorem update_eq_nil (h : locks.holds resource holder = false) :
    takers.update locks granted resource holder = [] := by
  simp [update, h]

/-- Only a lock that is held has takers. -/
theorem holds_of_update_ne_nil (h : takers.update locks granted resource holder ≠ []) :
    locks.holds resource holder = true := by
  obtain ⟨x, hx⟩ := List.exists_mem_of_ne_nil _ h
  exact (mem_update.mp hx).1

/-- A call that grants nothing here leaves the takers of a lock that stays. -/
theorem update_of_ne (h : locks.holds resource holder = true)
    (hne : ∀ x, granted ≠ some (x, resource, holder)) :
    takers.update locks granted resource holder = takers resource holder := by
  rcases granted with _ | ⟨x, resource', holder'⟩
  · simp [update, h]
  · have : ¬(resource' = resource ∧ holder' = holder) := by
      rintro ⟨rfl, rfl⟩
      exact hne x rfl
    simp [update, h, this]

/-- After a grant, a lock that is held is the one granted, or it was held before and has the takers
it had. -/
theorem update_of_granted {locks' : LockRegistry} {asked : String} {id : HolderId}
    {lockString : String} {response : LockResponse}
    (hr : locks.tryRequest asked id lockString = (some response, locks'))
    (hheld : locks'.holds resource holder = true) :
    (resource = asked ∧ holder = id) ∨ (locks.holds resource holder = true ∧
      takers.update locks' (some (x, asked, id)) resource holder = takers resource holder) := by
  by_cases hown : resource = asked ∧ holder = id
  · exact .inl hown
  · refine .inr ⟨((LockRegistry.granted_holds hr).mp hheld).resolve_right hown,
      update_of_ne hheld fun y heq => ?_⟩
    obtain ⟨-, hrest⟩ := Prod.mk.inj (Option.some.inj heq)
    obtain ⟨hres, hid⟩ := Prod.mk.inj hrest
    exact hown ⟨hres.symm, hid.symm⟩

end Takers
end Ugpibd.Frontend
