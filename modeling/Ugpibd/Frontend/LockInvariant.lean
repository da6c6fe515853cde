import Ugpibd.Frontend.LockSpec
import Ugpibd.Library.Runs

/-! The registry invariant over every history of calls, up to the one call that breaks it:
a grant that nests a lock whose u32 depth is already full stores depth zero. -/
namespace Ugpibd.Frontend
open Ugpibd.Library

/-- What a table keeps: an exclusive holder shares with nobody, a name is there exactly for
the shared holders, and no depth is zero. -/
structure LockTable.WellFormed (table : LockTable) : Prop where
  exclusive_alone : ∀ (holder : HolderId) (depth : UInt32),
    table.exclusive = some (holder, depth) → ∀ other ∈ table.shared, other = holder
  named_iff_shared : table.sharedName.isSome = true ↔ ∃ holder, holder ∈ table.shared
  exclusive_depth : ∀ (holder : HolderId) (depth : UInt32), table.exclusive = some (holder, depth) → 1 ≤ depth
  shared_depth : ∀ (holder : HolderId) (depth : UInt32), table.shared[holder]? = some depth → 1 ≤ depth

namespace LockTable
variable {table table' : LockTable} {id : HolderId} {lockString : String} {response : LockResponse}

/-- The counter a grant would increment is at its largest value. -/
def Full (table : LockTable) (id : HolderId) (lockString : String) : Prop :=
  if lockString = "" then table.exclusive = some (id, 4294967295)
  else table.shared[id]? = some 4294967295

instance : Decidable (table.Full id lockString) :=
  inferInstanceAs (Decidable (if lockString = "" then table.exclusive = some (id, 4294967295)
    else table.shared[id]? = some 4294967295))

theorem wellFormed_default : WellFormed {} where
  exclusive_alone := by simp
  named_iff_shared := by simp
  exclusive_depth := by simp
  shared_depth := by simp

private theorem one_le_iff_ne_zero (depth : UInt32) : 1 ≤ depth ↔ depth ≠ 0 := by
  rw [UInt32.le_iff_toNat_le, ne_eq, ← UInt32.toNat_inj]
  exact Nat.one_le_iff_ne_zero

private theorem one_le_succ_iff (depth : UInt32) : 1 ≤ depth + 1 ↔ depth ≠ 4294967295 := by
  rw [one_le_iff_ne_zero, not_iff_not]
  constructor
  · intro h
    rw [← sub_eq_iff_eq_add.mpr h.symm]
    rfl
  · rintro rfl
    rfl

/-- A grant keeps a table well formed exactly when the counter it increments is not full. -/
theorem grant_wellFormed_iff (hwf : table.WellFormed)
    (h : table.grant id lockString = some (table', response)) :
    table'.WellFormed ↔ ¬table.Full id lockString := by
  obtain ⟨depth, rfl, hx, -, rfl⟩ | ⟨rfl, hx, hs, -, rfl⟩ | ⟨hstr, hx, hn, -, rfl⟩ := grant_cases h
  · simp only [Full, if_true, hx, Option.some.injEq, Prod.mk.injEq, true_and]
    rw [← ne_eq, ← one_le_succ_iff]
    refine ⟨fun hwf' => hwf'.exclusive_depth id _ rfl, fun hd => ⟨?_, hwf.named_iff_shared, ?_,
      hwf.shared_depth⟩⟩
    · rintro holder _ ⟨rfl, rfl⟩
      exact hwf.exclusive_alone _ depth hx
    · rintro holder _ ⟨rfl, rfl⟩
      exact hd
  · simp only [Full, if_true, hx, reduceCtorEq, not_false_eq_true, iff_true]
    refine ⟨?_, hwf.named_iff_shared, ?_, hwf.shared_depth⟩
    · rintro holder _ ⟨rfl, rfl⟩
      exact hs
    · rintro holder _ ⟨rfl, rfl⟩
      decide
  · have hd : (1 ≤ table.shared.getD id 0 + 1) ↔ ¬table.Full id lockString := by
      rw [one_le_succ_iff, Full, if_neg hstr, Std.ExtTreeMap.getD_eq_getD_getElem?]
      cases hs : table.shared[id]? with
      | none => simp
      | some depth => simp
    rw [← hd]
    refine ⟨fun hwf' => hwf'.shared_depth id _ (by simp), fun hd => ⟨?_, ?_, hwf.exclusive_depth, ?_⟩⟩
    · intro holder depth hh other ho
      rcases Std.ExtTreeMap.mem_insert.mp ho with hc | hm
      · rw [hx holder depth hh, Std.LawfulEqCmp.compare_eq_iff_eq.mp hc]
      · exact hwf.exclusive_alone holder depth hh other hm
    · simp only [Option.isSome_some, true_iff]
      exact ⟨id, by simp⟩
    · intro holder depth hh
      rw [Std.ExtTreeMap.getElem?_insert] at hh
      split at hh
      · rwa [← Option.some.inj hh]
      · exact hwf.shared_depth holder depth hh

private theorem removeShared_wellFormed (hwf : table.WellFormed) :
    (table.removeShared id).WellFormed where
  exclusive_alone := by
    intro holder depth hh other ho
    exact hwf.exclusive_alone holder depth hh other (mem_removeShared.mp ho).1
  named_iff_shared := by
    simp only [removeShared]
    split
    · rename_i he
      obtain he : table.shared.erase id = ∅ := by simpa using he
      simp [he]
    · rename_i he
      have hex : ∃ holder, holder ∈ table.shared.erase id := by
        by_contra hn
        exact he (by simpa using Std.ExtTreeMap.eq_empty_iff_forall_not_mem.mpr (not_exists.mp hn))
      rw [hwf.named_iff_shared]
      refine ⟨fun _ => hex, fun _ => ?_⟩
      obtain ⟨holder, hm⟩ := hex
      exact ⟨holder, (Std.ExtTreeMap.mem_erase.mp hm).2⟩
  exclusive_depth := hwf.exclusive_depth
  shared_depth := by
    intro holder depth hh
    simp only [removeShared, Std.ExtTreeMap.getElem?_erase] at hh
    split at hh
    · cases hh
    · exact hwf.shared_depth holder depth hh

theorem releaseLevel_wellFormed (hwf : table.WellFormed)
    (h : table.releaseLevel id = some (table', response)) : table'.WellFormed := by
  obtain ⟨depth, hx, -, rfl⟩ | ⟨depth, -, hs, -, rfl⟩ := releaseLevel_cases h
  · refine ⟨?_, hwf.named_iff_shared, ?_, hwf.shared_depth⟩
    · intro holder d hh
      split at hh
      · cases hh
      · obtain ⟨rfl, rfl⟩ := Prod.mk.inj (Option.some.inj hh)
        exact hwf.exclusive_alone id depth hx
    · intro holder d hh
      split at hh
      · cases hh
      · obtain ⟨rfl, rfl⟩ := Prod.mk.inj (Option.some.inj hh)
        exact (one_le_iff_ne_zero _).mpr ‹_›
  · split
    · exact removeShared_wellFormed hwf
    · rename_i hd
      have hm : id ∈ table.shared := Std.ExtTreeMap.mem_iff_isSome_getElem?.mpr (by simp [hs])
      refine ⟨?_, ?_, hwf.exclusive_depth, ?_⟩
      · intro holder d hh other ho
        rcases Std.ExtTreeMap.mem_insert.mp ho with hc | ho
        · rw [← Std.LawfulEqCmp.compare_eq_iff_eq.mp hc]
          exact hwf.exclusive_alone holder d hh id hm
        · exact hwf.exclusive_alone holder d hh other ho
      · rw [hwf.named_iff_shared]
        exact ⟨fun _ => ⟨id, by simp⟩, fun _ => ⟨id, hm⟩⟩
      · intro holder d hh
        rw [Std.ExtTreeMap.getElem?_insert] at hh
        split at hh
        · rw [← Option.some.inj hh]
          exact (one_le_iff_ne_zero _).mpr hd
        · exact hwf.shared_depth holder d hh

theorem releaseHolder_wellFormed (hwf : table.WellFormed) : (table.releaseHolder id).WellFormed := by
  unfold releaseHolder
  dsimp only
  generalize ht : (if table.holdsExclusive id then { table with exclusive := none } else table) = t
  have hx : t.WellFormed := by
    rw [← ht]
    split
    · exact ⟨by simp, hwf.named_iff_shared, by simp, hwf.shared_depth⟩
    · exact hwf
  split
  · exact removeShared_wellFormed hx
  · exact hx

theorem stored_wellFormed (hwf : table.WellFormed) : table.stored.WellFormed := by
  unfold stored
  split
  · exact wellFormed_default
  · exact hwf

end LockTable

/-- Every table of the registry is well formed, an exclusive holder locks everybody else out,
and no empty table is stored. -/
structure LockRegistry.WellFormed (reg : LockRegistry) : Prop where
  tables_wellFormed : ∀ resource, (reg.table resource).WellFormed
  exclusive_excludes : ∀ resource holder, (reg.table resource).holdsExclusive holder = true →
    ∀ other, other ≠ holder → reg.hasAccess resource other = false
  no_empty_table : reg.NoEmptyTable

namespace LockRegistry
variable {reg : LockRegistry}

/-- The call is granted and nests a lock whose depth counter is full. -/
def NestsFull (reg : LockRegistry) : LockOp → Prop
  | .request resource id lockString => (reg.tryRequest resource id lockString).1.isSome = true ∧
      (reg.table resource).Full id lockString
  | .release .. | .releaseAll _ => False

instance : (op : LockOp) → Decidable (reg.NestsFull op)
  | .request .. => inferInstanceAs (Decidable (_ ∧ _))
  | .release .. | .releaseAll _ => inferInstanceAs (Decidable False)

/-- Exclusion of access follows from what the tables keep. -/
theorem wellFormed_of_tables (htab : ∀ resource, (reg.table resource).WellFormed)
    (hne : reg.NoEmptyTable) : reg.WellFormed where
  tables_wellFormed := htab
  exclusive_excludes := by
    intro resource holder hx other ho
    obtain ⟨depth, hd⟩ := LockTable.holdsExclusive_iff.mp hx
    rw [Bool.eq_false_iff, ne_eq, hasAccess_iff, holds_eq, LockTable.holds_iff]
    rintro ((⟨d, hd'⟩ | hm) | hnone)
    · rw [hd] at hd'
      exact ho (Prod.mk.inj (Option.some.inj hd')).1.symm
    · exact ho ((htab resource).exclusive_alone holder depth hd other hm)
    · have hh := hnone holder
      rw [holds_eq, LockTable.holds, hx] at hh
      cases hh
  no_empty_table := hne

theorem wellFormed_default : WellFormed {} :=
  wellFormed_of_tables (fun _ => LockTable.wellFormed_default) noEmptyTable_default

/-- One call keeps the registry well formed exactly when it nests no full lock. -/
theorem apply_wellFormed_iff (hwf : reg.WellFormed) (op : LockOp) :
    (reg.apply op).2.WellFormed ↔ ¬reg.NestsFull op := by
  constructor
  · intro hwf' hfull
    cases op with
    | request resource id lockString =>
      obtain ⟨hsome, hfull⟩ := hfull
      obtain ⟨response, hresp⟩ := Option.isSome_iff_exists.mp hsome
      have hr : reg.tryRequest resource id lockString =
          (some response, (reg.tryRequest resource id lockString).2) := Prod.ext hresp rfl
      obtain ⟨t, hg, hreg⟩ := tryRequest_granted hr
      have ht := hwf'.tables_wellFormed resource
      rw [apply, hreg, table_insert, if_pos rfl] at ht
      exact (LockTable.grant_wellFormed_iff (hwf.tables_wellFormed resource) hg).mp ht hfull
    | release resource id => exact hfull
    | releaseAll id => exact hfull
  · intro hfull
    refine wellFormed_of_tables (fun resource => ?_) (apply_noEmptyTable hwf.no_empty_table op)
    have ht := hwf.tables_wellFormed resource
    obtain ⟨he, -⟩ | ⟨id, str, response, rfl, hresp, hg⟩ | ⟨id, response, t, rfl, -, -, hl, he⟩ | ⟨id, rfl, he⟩ :=
      apply_table_cases hwf.no_empty_table op resource
    · rw [he]; exact ht
    · refine (LockTable.grant_wellFormed_iff ht hg).mpr fun hf => hfull ⟨?_, hf⟩
      rw [apply] at hresp
      simp [hresp]
    · rw [he]; exact LockTable.stored_wellFormed (LockTable.releaseLevel_wellFormed ht hl)
    · rw [he]; exact LockTable.stored_wellFormed (LockTable.releaseHolder_wellFormed ht)

end LockRegistry
end Ugpibd.Frontend
