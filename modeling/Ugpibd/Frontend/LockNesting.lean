import Ugpibd.Frontend.LockInvariant

/-! Two counters, one nesting count: however a holder mixes shared and exclusive levels,
its grants less its releases are the sum of the two depths its table stores. -/
namespace Ugpibd.Frontend
open Ugpibd.Library

namespace LockTable
variable {table table' : LockTable} {id other : HolderId} {lockString : String}
  {response : LockResponse}

def exclusiveDepth (table : LockTable) (id : HolderId) : UInt32 :=
  match table.exclusive with
  | some (holder, depth) => if holder = id then depth else 0
  | none => 0

def sharedDepth (table : LockTable) (id : HolderId) : UInt32 := table.shared.getD id 0

/-- All levels one holder has on the resource, shared and exclusive. -/
def levels (table : LockTable) (id : HolderId) : Nat :=
  (table.exclusiveDepth id).toNat + (table.sharedDepth id).toNat

theorem sharedDepth_insert (name : Option String) (depth : UInt32) :
    sharedDepth { table with sharedName := name, shared := table.shared.insert id depth } other =
      if id = other then depth else table.sharedDepth other := by
  simp only [sharedDepth, Std.ExtTreeMap.getD_insert, Std.LawfulEqCmp.compare_eq_iff_eq]

theorem sharedDepth_removeShared :
    (table.removeShared id).sharedDepth other = if id = other then 0 else table.sharedDepth other := by
  simp only [sharedDepth, removeShared, Std.ExtTreeMap.getD_erase, Std.LawfulEqCmp.compare_eq_iff_eq]

private theorem toNat_succ {depth : UInt32} (h : depth ≠ 4294967295) :
    (depth + 1).toNat = depth.toNat + 1 := by
  have hlt := depth.toNat_lt
  have hne : depth.toNat ≠ 4294967295 := fun he => h (UInt32.toNat_inj.mp he)
  rw [UInt32.toNat_add]
  exact Nat.mod_eq_of_lt (by simp; omega)

private theorem toNat_pred {depth : UInt32} (h : 1 ≤ depth) :
    (depth - 1).toNat + 1 = depth.toNat := by
  have hle := UInt32.le_iff_toNat_le.mp h
  rw [UInt32.toNat_sub_of_le _ _ h]
  simp at hle ⊢
  omega

/-- A grant adds one level to its holder. -/
theorem grant_levels (h : table.grant id lockString = some (table', response))
    (hfull : ¬table.Full id lockString) (other : HolderId) :
    table'.levels other = table.levels other + if id = other then 1 else 0 := by
  obtain ⟨depth, rfl, hx, -, rfl⟩ | ⟨-, hx, -, -, rfl⟩ | ⟨hstr, -, -, -, rfl⟩ := grant_cases h
  · have hd : depth ≠ 4294967295 := by
      rintro rfl
      exact hfull (by rw [Full, if_pos rfl, hx])
    by_cases ho : id = other
    · simp only [levels, exclusiveDepth, sharedDepth, hx, ho, if_true, toNat_succ hd]
      omega
    · simp only [levels, exclusiveDepth, sharedDepth, hx, ho, if_false, add_zero]
  · by_cases ho : id = other
    · simp only [levels, exclusiveDepth, sharedDepth, hx, ho, if_true]
      simp
      omega
    · simp only [levels, exclusiveDepth, sharedDepth, hx, ho, if_false, add_zero]
  · have hd : table.sharedDepth id ≠ 4294967295 := by
      intro hd
      refine hfull ?_
      rw [Full, if_neg hstr]
      rw [sharedDepth, Std.ExtTreeMap.getD_eq_getD_getElem?] at hd
      cases hs : table.shared[id]? with
      | none => simp [hs] at hd
      | some depth => simpa [hs] using hd
    rw [levels, levels, sharedDepth_insert]
    by_cases ho : id = other
    · subst ho
      rw [if_pos rfl, if_pos rfl, ← sharedDepth, toNat_succ hd]
      rfl
    · rw [if_neg ho, if_neg ho]
      rfl

/-- A release takes one level from its holder, whichever counter it is in. -/
theorem releaseLevel_levels (hwf : table.WellFormed)
    (h : table.releaseLevel id = some (table', response)) (other : HolderId) :
    table'.levels other + (if id = other then 1 else 0) = table.levels other := by
  obtain ⟨depth, hx, -, rfl⟩ | ⟨depth, hnx, hs, -, rfl⟩ := releaseLevel_cases h
  · have hd := toNat_pred (hwf.exclusive_depth id depth hx)
    have hleft : exclusiveDepth { table with
          exclusive := if depth - 1 = 0 then none else some (id, depth - 1) } other =
        if id = other then depth - 1 else 0 := by
      unfold exclusiveDepth
      split
      · rename_i holder d he
        split at he
        · cases he
        · obtain ⟨rfl, rfl⟩ := Prod.mk.inj (Option.some.inj he)
          rfl
      · rename_i he
        split at he
        · rename_i hz
          rw [hz, ite_self]
        · cases he
    have hwas : table.exclusiveDepth other = if id = other then depth else 0 := by
      simp only [exclusiveDepth, hx]
    have hsame : sharedDepth { table with
        exclusive := if depth - 1 = 0 then none else some (id, depth - 1) } other =
        table.sharedDepth other := rfl
    rw [levels, levels, hleft, hwas, hsame]
    split <;> omega
  · have hd := toNat_pred (hwf.shared_depth id depth hs)
    have hsd : table.sharedDepth id = depth := by
      rw [sharedDepth, Std.ExtTreeMap.getD_eq_getD_getElem?, hs]; rfl
    have hleft : (if depth - 1 = 0 then table.removeShared id
          else { table with shared := table.shared.insert id (depth - 1) }).sharedDepth other =
        if id = other then depth - 1 else table.sharedDepth other := by
      split
      · rename_i hz
        rw [sharedDepth_removeShared, hz]
      · exact sharedDepth_insert table.sharedName (depth - 1)
    have hx : (if depth - 1 = 0 then table.removeShared id
          else { table with shared := table.shared.insert id (depth - 1) }).exclusiveDepth other =
        table.exclusiveDepth other := by
      split <;> rfl
    rw [levels, levels, hleft, hx]
    split
    · rename_i ho
      subst ho
      rw [hsd]
      omega
    · rfl

theorem exclusiveDepth_releaseHolder :
    (table.releaseHolder id).exclusiveDepth other =
      if id = other then 0 else table.exclusiveDepth other := by
  unfold exclusiveDepth
  rw [releaseHolder_exclusive]
  cases hx : table.exclusive with
  | none => simp
  | some entry =>
    obtain ⟨holder, depth⟩ := entry
    by_cases hid : holder = id
    · subst hid
      by_cases ho : holder = other <;> simp [holdsExclusive, hx, ho]
    · by_cases ho : id = other
      · subst ho
        simp [holdsExclusive, hx, hid]
      · simp [holdsExclusive, hx, hid, ho]

theorem sharedDepth_releaseHolder :
    (table.releaseHolder id).sharedDepth other = if id = other then 0 else table.sharedDepth other := by
  simp only [sharedDepth, releaseHolder_shared, Std.ExtTreeMap.getD_erase,
    Std.LawfulEqCmp.compare_eq_iff_eq]

theorem stored_exclusiveDepth : table.stored.exclusiveDepth id = table.exclusiveDepth id := by
  unfold stored
  split
  · rename_i he
    obtain ⟨hx, -⟩ : table.exclusive = none ∧ table.shared = ∅ := by simpa [isEmpty] using he
    simp [exclusiveDepth, hx]
  · rfl

theorem stored_sharedDepth : table.stored.sharedDepth id = table.sharedDepth id := by
  unfold stored
  split
  · rename_i he
    obtain ⟨-, hs⟩ : table.exclusive = none ∧ table.shared = ∅ := by simpa [isEmpty] using he
    simp [sharedDepth, hs]
  · rfl

theorem stored_levels : table.stored.levels id = table.levels id := by
  rw [levels, levels, stored_exclusiveDepth, stored_sharedDepth]

theorem exclusiveDepth_pos_iff (hwf : table.WellFormed) (id : HolderId) :
    0 < table.exclusiveDepth id ↔ ∃ depth, table.exclusive = some (id, depth) := by
  unfold exclusiveDepth
  cases hx : table.exclusive with
  | none => simp
  | some entry =>
    obtain ⟨holder, depth⟩ := entry
    have hd := UInt32.lt_of_lt_of_le (by decide : (0 : UInt32) < 1) (hwf.exclusive_depth holder depth hx)
    by_cases hid : holder = id
    · simp [hid, hd]
    · simp [hid]

/-- A holder has a level exactly when the table counts it as a holder. -/
theorem levels_pos_iff (hwf : table.WellFormed) : 0 < table.levels id ↔ table.holds id = true := by
  have hshared : 0 < (table.sharedDepth id).toNat ↔ id ∈ table.shared := by
    rw [sharedDepth, Std.ExtTreeMap.getD_eq_getD_getElem?, Std.ExtTreeMap.mem_iff_isSome_getElem?]
    cases hs : table.shared[id]? with
    | none => simp
    | some depth =>
      have hd := UInt32.le_iff_toNat_le.mp (hwf.shared_depth id depth hs)
      simp only [Option.getD_some, Option.isSome_some, iff_true]
      exact hd
  have hexcl := UInt32.lt_iff_toNat_lt.symm.trans (exclusiveDepth_pos_iff hwf id)
  rw [holds_iff, ← hshared, ← hexcl, levels]
  simp only [UInt32.toNat_zero]
  omega

end LockTable
end Ugpibd.Frontend
