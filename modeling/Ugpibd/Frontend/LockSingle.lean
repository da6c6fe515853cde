import Ugpibd.Frontend.LockNesting

/-! Holders that do not nest: what the registry keeps for one that asks for an exclusive lock only
while it has none. -/
namespace Ugpibd.Frontend

/-- The holder has one exclusive level at most and no shared one. -/
structure LockTable.Single (table : LockTable) (id : HolderId) : Prop where
  not_shared : id ∉ table.shared
  depth_one : ∀ depth, table.exclusive = some (id, depth) → depth = 1

namespace LockTable
variable {table table' : LockTable} {id other : HolderId} {response : LockResponse}

theorem single_default (id : HolderId) : Single {} id :=
  ⟨Std.ExtTreeMap.not_mem_empty, nofun⟩

theorem Single.levels_le_one (h : table.Single id) : table.levels id ≤ 1 := by
  have hshared : table.sharedDepth id = 0 := Std.ExtTreeMap.getD_eq_fallback h.not_shared
  have hexcl : (table.exclusiveDepth id).toNat ≤ 1 := by
    unfold exclusiveDepth
    split
    · rename_i holder depth hx
      split
      · rename_i hid
        rw [h.depth_one depth (hid ▸ hx)]
        decide
      · decide
    · decide
  rw [levels, hshared]
  simpa using hexcl

theorem Single.stored (h : table.Single id) : table.stored.Single id := by
  unfold LockTable.stored
  split
  · exact single_default id
  · exact h

/-- A grant keeps a holder single that asks for nothing, or for a first exclusive level. -/
theorem Single.grant {lockString : String} (h : table.Single id)
    (hg : table.grant other lockString = some (table', response))
    (hother : other = id → lockString = "" ∧ table.holds id = false) : table'.Single id := by
  obtain ⟨depth, -, hx, -, rfl⟩ | ⟨-, -, -, -, rfl⟩ | ⟨hstr, -, -, -, rfl⟩ := grant_cases hg
  · have hne : other ≠ id := by
      rintro rfl
      have hheld : table.holds other = true := holds_iff.mpr (.inl ⟨depth, hx⟩)
      rw [(hother rfl).2] at hheld
      cases hheld
    exact ⟨h.not_shared, fun _ heq => absurd (Prod.mk.inj (Option.some.inj heq)).1 hne⟩
  · exact ⟨h.not_shared, fun _ heq => (Prod.mk.inj (Option.some.inj heq)).2.symm⟩
  · have hne : other ≠ id := fun heq => hstr (hother heq).1
    refine ⟨fun hmem => ?_, h.depth_one⟩
    rcases Std.ExtTreeMap.mem_insert.mp hmem with hmem | hmem
    · exact hne (Std.LawfulEqCmp.compare_eq_iff_eq.mp hmem)
    · exact h.not_shared hmem

/-- A release keeps a holder single, and takes away all it has if it is its own. -/
theorem Single.releaseLevel (h : table.Single id)
    (hr : table.releaseLevel other = some (table', response)) :
    table'.Single id ∧ (other = id → table'.holds id = false) := by
  obtain ⟨depth, hx, -, rfl⟩ | ⟨depth, -, hs, -, rfl⟩ := releaseLevel_cases hr
  · by_cases hid : other = id
    · subst hid
      obtain rfl := h.depth_one depth hx
      refine ⟨⟨h.not_shared, nofun⟩, fun _ => ?_⟩
      rw [← Bool.not_eq_true, holds_iff]
      rintro (⟨d, hd⟩ | hmem)
      · cases hd
      · exact h.not_shared hmem
    · refine ⟨⟨h.not_shared, fun d hd => ?_⟩, fun heq => absurd heq hid⟩
      dsimp only at hd
      split at hd
      · cases hd
      · exact absurd (Prod.mk.inj (Option.some.inj hd)).1 hid
  · have hne : other ≠ id := by
      rintro rfl
      exact h.not_shared (Std.ExtTreeMap.mem_iff_isSome_getElem?.mpr (by simp [hs]))
    refine ⟨⟨fun hmem => h.not_shared (releaseLevel_shared_sub hr hmem), fun d hd => ?_⟩,
      fun heq => absurd heq hne⟩
    split at hd
    · exact h.depth_one d hd
    · exact h.depth_one d hd

theorem Single.releaseHolder (h : table.Single id) (other : HolderId) :
    (table.releaseHolder other).Single id := by
  refine ⟨fun hmem => ?_, fun depth hx => ?_⟩
  · rw [releaseHolder_shared] at hmem
    exact h.not_shared (Std.ExtTreeMap.mem_of_mem_erase hmem)
  · rw [releaseHolder_exclusive] at hx
    split at hx
    · cases hx
    · exact h.depth_one depth hx

end LockTable

namespace LockRegistry
variable {reg : LockRegistry} {resource : String} {id : HolderId}

/-- Any call keeps a holder single that makes no request, or a first exclusive one. -/
theorem apply_single (hne : reg.NoEmptyTable) (h : (reg.table resource).Single id) (op : LockOp)
    (hop : ∀ lockString, op = .request resource id lockString →
      lockString = "" ∧ reg.holds resource id = false) :
    ((reg.apply op).2.table resource).Single id := by
  obtain ⟨hsame, -⟩ | ⟨other, lockString, response, rfl, -, hg⟩ |
    ⟨other, response, table, rfl, -, -, hr, htab⟩ | ⟨other, rfl, htab⟩ :=
    apply_table_cases hne op resource
  · rwa [hsame]
  · refine h.grant hg ?_
    rintro rfl
    have := hop lockString rfl
    rwa [holds_eq] at this
  · rw [htab]
    exact (h.releaseLevel hr).1.stored
  · rw [htab]
    exact (h.releaseHolder other).stored

/-- A release by a single holder leaves it nothing. -/
theorem release_holds_of_single (h : (reg.table resource).Single id) :
    (reg.release resource id).2.holds resource id = false := by
  cases hrel : reg.release resource id with
  | mk response reg' =>
    obtain ⟨-, rfl, hno⟩ | ⟨table, hlevel, -, -, -, htab⟩ := release_cases hrel
    · exact hno
    · obtain ⟨tables, n⟩ := reg'
      simp only at htab
      subst htab
      rw [holds_eq]
      split
      · rw [table_erase, if_pos rfl]
        rfl
      · rw [table_insert, if_pos rfl]
        exact (h.releaseLevel hlevel).2 rfl

/-- Only a request of its own gives a holder a lock. -/
theorem apply_holds_sub (hne : reg.NoEmptyTable) {op : LockOp}
    (hop : ∀ lockString, op ≠ .request resource id lockString)
    (hheld : (reg.apply op).2.holds resource id = true) : reg.holds resource id = true := by
  cases op with
  | request resource' other lockString =>
    simp only [apply] at hheld
    cases hr : reg.tryRequest resource' other lockString with
    | mk answer reg' =>
      rw [hr] at hheld
      cases answer with
      | none => rwa [tryRequest_refused hne hr] at hheld
      | some response =>
        rcases (granted_holds hr).mp hheld with hheld | ⟨rfl, rfl⟩
        · exact hheld
        · exact absurd rfl (hop lockString)
  | release resource' other => exact release_holds_sub rfl hheld
  | releaseAll other => exact (releaseAll_holds.mp hheld).1

end LockRegistry
end Ugpibd.Frontend
