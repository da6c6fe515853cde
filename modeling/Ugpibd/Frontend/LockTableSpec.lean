import Ugpibd.Frontend.Lock

/-! What one table's operations do: the cases of each, and who holds the table after it.
The registry's lemmas are stated over these and do not unfold a table again. -/
namespace Ugpibd.Frontend

namespace LockTable
variable {table table' : LockTable} {id other : HolderId} {lockString : String}
  {response : LockResponse}

theorem holdsExclusive_iff : table.holdsExclusive id = true ↔ ∃ d, table.exclusive = some (id, d) := by
  cases h : table.exclusive with
  | none => simp [holdsExclusive, h]
  | some entry =>
    obtain ⟨holder, depth⟩ := entry
    simp [holdsExclusive, h]

theorem holds_iff :
    table.holds id = true ↔ (∃ d, table.exclusive = some (id, d)) ∨ id ∈ table.shared := by
  rw [holds, Bool.or_eq_true, holdsExclusive_iff, Std.ExtTreeMap.contains_iff_mem]

/-- An empty table is one that nobody holds. -/
theorem isEmpty_iff : table.isEmpty = true ↔ ∀ id, table.holds id = false := by
  constructor
  · intro h id
    obtain ⟨hx, hs⟩ : table.exclusive = none ∧ table.shared = ∅ := by simpa [isEmpty] using h
    simp [holds, holdsExclusive, hx, hs]
  · intro h
    have hx : table.exclusive = none := by
      cases he : table.exclusive with
      | none => rfl
      | some entry =>
        have hh := h entry.1
        simp [holds, holdsExclusive, he] at hh
    have hs : table.shared = ∅ := by
      rw [Std.ExtTreeMap.eq_empty_iff_forall_not_mem]
      intro id hid
      have hh := holds_iff.mpr (Or.inr hid)
      rw [h id] at hh
      cases hh
    simp [isEmpty, hx, hs]

theorem grantsAccess_iff :
    table.grantsAccess id = true ↔ table.holds id = true ∨ ∀ other, table.holds other = false := by
  rw [grantsAccess, Bool.or_eq_true, isEmpty_iff]

/-- The three ways a request is granted: a nested exclusive level, a first one, a shared level. -/
theorem grant_cases (h : table.grant id lockString = some (table', response)) :
    (∃ depth, lockString = "" ∧ table.exclusive = some (id, depth) ∧ response = .successExclusive ∧
      table' = { table with exclusive := some (id, depth + 1) }) ∨
    (lockString = "" ∧ table.exclusive = none ∧ (∀ other ∈ table.shared, other = id) ∧
      response = .successExclusive ∧ table' = { table with exclusive := some (id, 1) }) ∨
    (lockString ≠ "" ∧ (∀ other depth, table.exclusive = some (other, depth) → other = id) ∧
      (∀ name, table.sharedName = some name → name = lockString) ∧ response = .successShared ∧
      table' = { table with
        sharedName := some lockString
        shared := table.shared.insert id (table.shared.getD id 0 + 1) }) := by
  unfold grant at h
  split at h
  · rename_i hstr
    split at h
    · rename_i holder depth hx
      split at h
      · rename_i hid
        obtain ⟨rfl, rfl⟩ := Prod.mk.inj (Option.some.inj h)
        subst hid
        exact .inl ⟨depth, hstr, hx, rfl, rfl⟩
      · cases h
    · rename_i hx
      split at h
      · cases h
      · rename_i hs
        obtain ⟨rfl, rfl⟩ := Prod.mk.inj (Option.some.inj h)
        exact .inr (.inl ⟨hstr, hx, by simpa using hs, rfl, rfl⟩)
  · rename_i hstr
    dsimp only at h
    split at h
    · cases h
    · rename_i hc
      obtain ⟨rfl, rfl⟩ := Prod.mk.inj (Option.some.inj h)
      simp only [Bool.or_eq_true, not_or] at hc
      refine .inr (.inr ⟨hstr, fun other depth hx => ?_, fun name hn => ?_, rfl, rfl⟩)
      · simpa [hx] using hc.1
      · simpa [hn] using hc.2

/-- A request is refused over another's exclusive lock, another's shared lock where it asks
for an exclusive one, or a shared name that is not its own. -/
theorem grant_eq_none_iff :
    table.grant id lockString = none ↔
      (∃ other depth, table.exclusive = some (other, depth) ∧ other ≠ id) ∨
      (lockString = "" ∧ table.exclusive = none ∧ ∃ other ∈ table.shared, other ≠ id) ∨
      (lockString ≠ "" ∧ ∃ name, table.sharedName = some name ∧ name ≠ lockString) := by
  unfold grant
  split
  · rename_i hstr
    cases hx : table.exclusive with
    | none => simp [hstr]
    | some entry =>
      obtain ⟨holder, depth⟩ := entry
      simp [hstr]
  · rename_i hstr
    cases hx : table.exclusive with
    | none => cases hn : table.sharedName <;> simp [hstr]
    | some entry =>
      obtain ⟨holder, depth⟩ := entry
      cases hn : table.sharedName with
      | none => simp [hstr]
      | some name => simp [hstr, imp_iff_not_or]

/-- A grant adds its holder and nobody else. -/
theorem grant_holds (h : table.grant id lockString = some (table', response)) (other : HolderId) :
    table'.holds other = true ↔ table.holds other = true ∨ other = id := by
  rw [holds_iff, holds_iff]
  obtain ⟨depth, -, hx, -, rfl⟩ | ⟨-, hx, -, -, rfl⟩ | ⟨-, -, -, -, rfl⟩ := grant_cases h
  · simp only [hx, Option.some.injEq, Prod.mk.injEq, exists_and_left, exists_eq', and_true]
    grind
  · simp only [hx, Option.some.injEq, Prod.mk.injEq, exists_and_left, exists_eq', and_true]
    grind
  · simp only [Std.ExtTreeMap.mem_insert, Std.LawfulEqCmp.compare_eq_iff_eq]
    grind

/-- A grant never makes room: what it does not serve stays refused. -/
theorem grant_keeps_refused {asked : String} (h : table.grant id lockString = some (table', response))
    (hr : table.grant other asked = none) : table'.grant other asked = none := by
  rw [grant_eq_none_iff] at hr ⊢
  obtain ⟨depth, -, hx, -, rfl⟩ | ⟨-, hx, hs, -, rfl⟩ | ⟨-, hx, hn, -, rfl⟩ := grant_cases h
  · simp only [hx, Option.some.injEq, Prod.mk.injEq] at hr ⊢
    grind
  · simp only [hx, Option.some.injEq, Prod.mk.injEq] at hr ⊢
    grind
  · simp only [Std.ExtTreeMap.mem_insert, Std.LawfulEqCmp.compare_eq_iff_eq] at hr ⊢
    grind

/-- The two ways a level is released: an exclusive one where there is one, else a shared one. -/
theorem releaseLevel_cases (h : table.releaseLevel id = some (table', response)) :
    (∃ depth, table.exclusive = some (id, depth) ∧ response = .successExclusive ∧
      table' = { table with
        exclusive := if depth - 1 = 0 then none else some (id, depth - 1) }) ∨
    (∃ depth, table.holdsExclusive id = false ∧ table.shared[id]? = some depth ∧
      response = .successShared ∧
      table' = if depth - 1 = 0 then table.removeShared id
        else { table with shared := table.shared.insert id (depth - 1) }) := by
  unfold releaseLevel at h
  split at h
  · rename_i holder depth hx
    obtain ⟨hexcl, hid⟩ := Option.filter_eq_some_iff.mp hx
    obtain rfl : holder = id := by simpa using hid
    obtain ⟨rfl, rfl⟩ := Prod.mk.inj (Option.some.inj h)
    exact .inl ⟨depth, hexcl, rfl, rfl⟩
  · rename_i depth hx hs
    obtain ⟨rfl, rfl⟩ := Prod.mk.inj (Option.some.inj h)
    refine .inr ⟨depth, ?_, hs, rfl, rfl⟩
    rw [Bool.eq_false_iff, ne_eq, holdsExclusive_iff]
    rintro ⟨d, hd⟩
    simp [hd] at hx
  · cases h

theorem releaseLevel_eq_none_iff : table.releaseLevel id = none ↔ table.holds id = false := by
  rw [Bool.eq_false_iff, ne_eq, holds_iff]
  constructor
  · rintro h (⟨d, hd⟩ | hm)
    · simp [releaseLevel, hd, Option.filter_some] at h
    · obtain ⟨d, hd⟩ := Option.isSome_iff_exists.mp (Std.ExtTreeMap.mem_iff_isSome_getElem?.mp hm)
      cases hx : table.exclusive.filter (fun entry => entry.1 == id) <;>
        simp [releaseLevel, hx, hd] at h
  · intro h
    cases hr : table.releaseLevel id with
    | none => rfl
    | some released =>
      obtain ⟨depth, hx, -⟩ | ⟨depth, -, hs, -⟩ := releaseLevel_cases hr
      · exact absurd (.inl ⟨depth, hx⟩) h
      · exact absurd (.inr (Std.ExtTreeMap.mem_iff_isSome_getElem?.mpr (by simp [hs]))) h

theorem mem_removeShared : other ∈ (table.removeShared id).shared ↔ other ∈ table.shared ∧ other ≠ id := by
  simp only [removeShared, Std.ExtTreeMap.mem_erase, ne_eq, Std.LawfulEqCmp.compare_eq_iff_eq]
  grind

/-- The name stays as long as a shared holder does. -/
theorem removeShared_sharedName (h : other ∈ (table.removeShared id).shared) :
    (table.removeShared id).sharedName = table.sharedName := by
  simp only [removeShared] at h ⊢
  rw [if_neg]
  intro he
  rw [Std.ExtTreeMap.isEmpty_iff.mp he] at h
  exact Std.ExtTreeMap.not_mem_empty h

/-- A release takes away at most its own holder. -/
theorem releaseLevel_holds_other (h : table.releaseLevel id = some (table', response))
    (hne : other ≠ id) : table'.holds other = table.holds other := by
  rw [Bool.eq_iff_iff, holds_iff, holds_iff]
  obtain ⟨depth, hx, -, rfl⟩ | ⟨depth, -, hs, -, rfl⟩ := releaseLevel_cases h
  · simp only [hx]
    split <;> grind
  · split
    · rw [mem_removeShared]
      simp [removeShared, hne]
    · simp only [Std.ExtTreeMap.mem_insert, Std.LawfulEqCmp.compare_eq_iff_eq]
      grind

/-- A release makes nobody a shared holder. -/
theorem releaseLevel_shared_sub (h : table.releaseLevel id = some (table', response))
    (hm : other ∈ table'.shared) : other ∈ table.shared := by
  obtain ⟨_, _, _, rfl⟩ | ⟨depth, _, hd, _, rfl⟩ := releaseLevel_cases h
  · exact hm
  · split at hm
    · exact (mem_removeShared.mp hm).1
    · rcases Std.ExtTreeMap.mem_insert.mp hm with hc | hm
      · obtain rfl := Std.LawfulEqCmp.compare_eq_iff_eq.mp hc
        exact Std.ExtTreeMap.mem_iff_isSome_getElem?.mpr (by simp [hd])
      · exact hm

theorem releaseHolder_exclusive :
    (table.releaseHolder id).exclusive =
      if table.holdsExclusive id then none else table.exclusive := by
  unfold releaseHolder removeShared
  by_cases hx : table.holdsExclusive id <;> by_cases hs : table.shared.contains id <;>
    simp only [hx, hs, if_true, if_false, Bool.false_eq_true]

theorem releaseHolder_shared : (table.releaseHolder id).shared = table.shared.erase id := by
  unfold releaseHolder removeShared
  by_cases hs : id ∈ table.shared
  · by_cases hx : table.holdsExclusive id <;> simp [hx, hs]
  · have he : table.shared.erase id = table.shared := by
      ext k : 1
      rw [Std.ExtTreeMap.getElem?_erase]
      split
      · rename_i hk
        obtain rfl := Std.LawfulEqCmp.compare_eq_iff_eq.mp hk
        exact (Std.ExtTreeMap.getElem?_eq_none hs).symm
      · rfl
    by_cases hx : table.holdsExclusive id <;> simp [hx, hs, he]

theorem releaseHolder_sharedName (h : other ∈ (table.releaseHolder id).shared) :
    (table.releaseHolder id).sharedName = table.sharedName := by
  unfold releaseHolder at h ⊢
  by_cases hx : table.holdsExclusive id <;> by_cases hs : table.shared.contains id <;>
    simp only [hx, hs, if_true, if_false, Bool.false_eq_true] at h ⊢
  · exact removeShared_sharedName h
  · exact removeShared_sharedName h

theorem releaseHolder_holds :
    (table.releaseHolder id).holds other = true ↔ table.holds other = true ∧ other ≠ id := by
  have hx := @holdsExclusive_iff table id
  rw [holds_iff, holds_iff, releaseHolder_exclusive, releaseHolder_shared,
    Std.ExtTreeMap.mem_erase, ne_eq, Std.LawfulEqCmp.compare_eq_iff_eq]
  split <;> grind

theorem releaseHolder_of_not_holds (h : table.holds id = false) : table.releaseHolder id = table := by
  obtain ⟨hx, hs⟩ : table.holdsExclusive id = false ∧ table.shared.contains id = false := by
    simpa [holds] using h
  simp only [releaseHolder, hx, hs, Bool.false_eq_true, if_false]

/-- What the registry stores of a table after a release: it drops one that is empty. -/
def stored (table : LockTable) : LockTable := if table.isEmpty then {} else table

theorem stored_of_mem_shared (h : id ∈ table.stored.shared) : table.stored = table := by
  unfold stored at h ⊢
  split at h
  · exact absurd h Std.ExtTreeMap.not_mem_empty
  · rw [if_neg ‹_›]

end LockTable

end Ugpibd.Frontend
