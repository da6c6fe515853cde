import Ugpibd.Frontend.LockTableSpec

/-! What each registry call does to who holds what. The machines of the front-ends
use these equations and never unfold the registry. -/
namespace Ugpibd.Frontend

namespace LockRegistry
variable {reg reg' : LockRegistry} {resource resource' : String} {id other : HolderId}
  {lockString : String} {response : LockResponse}

/-- The table of a resource; one that is not stored is one that nobody holds. -/
def table (reg : LockRegistry) (resource : String) : LockTable := reg.tables.getD resource {}

theorem table_eq : reg.table resource = reg.tables[resource]?.getD {} := by
  rw [table, Std.ExtTreeMap.getD_eq_getD_getElem?]

theorem table_insert (tables : Std.ExtTreeMap String LockTable) (t : LockTable) (n : Nat) :
    LockRegistry.table ⟨tables.insert resource t, n⟩ resource' =
      if resource = resource' then t else LockRegistry.table ⟨tables, n⟩ resource' := by
  simp only [table, Std.ExtTreeMap.getD_insert, Std.LawfulEqCmp.compare_eq_iff_eq]

theorem table_erase (tables : Std.ExtTreeMap String LockTable) (n : Nat) :
    LockRegistry.table ⟨tables.erase resource, n⟩ resource' =
      if resource = resource' then {} else LockRegistry.table ⟨tables, n⟩ resource' := by
  simp only [table, Std.ExtTreeMap.getD_erase, Std.LawfulEqCmp.compare_eq_iff_eq]

theorem holds_eq : reg.holds resource id = (reg.table resource).holds id := by
  rw [holds, table_eq]
  cases reg.tables[resource]? <;> rfl

theorem hasAccess_eq : reg.hasAccess resource id = (reg.table resource).grantsAccess id := by
  rw [hasAccess, table_eq]
  cases reg.tables[resource]? <;> rfl

/-- Access is a lock of one's own or nobody's lock at all. -/
theorem hasAccess_iff :
    reg.hasAccess resource id = true ↔
      reg.holds resource id = true ∨ ∀ other, reg.holds resource other = false := by
  simp only [hasAccess_eq, holds_eq, LockTable.grantsAccess_iff]

/-- No stored table is empty. Every call keeps this, whatever the depths do. -/
def NoEmptyTable (reg : LockRegistry) : Prop :=
  ∀ (resource : String) (table : LockTable), reg.tables[resource]? = some table →
    table.isEmpty = false

theorem noEmptyTable_default : NoEmptyTable {} := by
  intro resource table h
  simp at h

theorem tryRequest_granted (h : reg.tryRequest resource id lockString = (some response, reg')) :
    ∃ table, (reg.table resource).grant id lockString = some (table, response) ∧
      reg' = { reg with tables := reg.tables.insert resource table } := by
  unfold tryRequest at h
  dsimp only at h
  split at h
  · rename_i table granted hg
    obtain ⟨hr, rfl⟩ := Prod.mk.inj h
    obtain rfl := Option.some.inj hr
    exact ⟨table, hg, rfl⟩
  · cases (Prod.mk.inj h).1

theorem tryRequest_eq_none_iff :
    (reg.tryRequest resource id lockString).1 = none ↔
      (reg.table resource).grant id lockString = none := by
  unfold tryRequest
  dsimp only [table]
  split <;> simp_all

/-- A refused request leaves the registry exactly as it was. -/
theorem tryRequest_refused (hne : reg.NoEmptyTable)
    (h : reg.tryRequest resource id lockString = (none, reg')) : reg' = reg := by
  have hg := tryRequest_eq_none_iff.mp (congrArg Prod.fst h)
  obtain rfl : (reg.tryRequest resource id lockString).2 = reg' := congrArg Prod.snd h
  -- a table that is not stored would have granted the request
  obtain ⟨table, ht⟩ : ∃ table, reg.tables[resource]? = some table := by
    cases ht : reg.tables[resource]? with
    | none =>
      rw [LockTable.grant_eq_none_iff, table_eq, ht] at hg
      simp at hg
    | some table => exact ⟨table, rfl⟩
  have hd : reg.tables.getD resource {} = table := by
    rw [Std.ExtTreeMap.getD_eq_getD_getElem?, ht]; rfl
  have hi : reg.tables.insert resource table = reg.tables := by
    ext k : 1
    rw [Std.ExtTreeMap.getElem?_insert]
    split
    · rename_i hk
      rw [← Std.LawfulEqCmp.compare_eq_iff_eq.mp hk, ht]
    · rfl
  rw [LockRegistry.table, hd] at hg
  simp only [tryRequest, hd, hg, hne resource table ht, hi, Bool.false_eq_true, if_false]

theorem granted_holds (h : reg.tryRequest resource id lockString = (some response, reg')) :
    reg'.holds resource' other = true ↔
      reg.holds resource' other = true ∨ (resource' = resource ∧ other = id) := by
  obtain ⟨t, hg, rfl⟩ := tryRequest_granted h
  simp only [holds_eq, table_insert]
  split
  · rename_i hr
    subst hr
    rw [LockTable.grant_holds hg]
    simp
  · rename_i hr
    simp [Ne.symm hr]

theorem granted_released (h : reg.tryRequest resource id lockString = (some response, reg')) :
    reg'.released = reg.released := by
  obtain ⟨t, -, rfl⟩ := tryRequest_granted h
  rfl

theorem granted_table_ne (h : reg.tryRequest resource id lockString = (some response, reg'))
    (hr : resource' ≠ resource) : reg'.table resource' = reg.table resource' := by
  obtain ⟨t, -, rfl⟩ := tryRequest_granted h
  rw [table_insert, if_neg (Ne.symm hr)]

theorem granted_keeps_refused {asked : String}
    (h : reg.tryRequest resource id lockString = (some response, reg'))
    (hr : (reg.tryRequest resource' other asked).1 = none) :
    (reg'.tryRequest resource' other asked).1 = none := by
  rw [tryRequest_eq_none_iff] at hr ⊢
  obtain ⟨t, hg, rfl⟩ := tryRequest_granted h
  rw [table_insert]
  split
  · rename_i he
    subst he
    exact LockTable.grant_keeps_refused hg hr
  · exact hr

/-- A release answers Error and changes nothing where the holder has no lock; elsewhere it
wakes the waiters and touches only that holder on that resource. -/
theorem release_cases (h : reg.release resource id = (response, reg')) :
    (response = .error ∧ reg' = reg ∧ reg.holds resource id = false) ∨
    (∃ table, (reg.table resource).releaseLevel id = some (table, response) ∧
      reg.holds resource id = true ∧ response.isSuccess = true ∧
      reg'.released = reg.released + 1 ∧
      reg'.tables = if table.isEmpty then reg.tables.erase resource
        else reg.tables.insert resource table) := by
  unfold release at h
  cases ht : reg.tables[resource]? with
  | none =>
    simp only [ht, Option.bind_none, Prod.mk.injEq] at h
    exact .inl ⟨h.1.symm, h.2.symm, by simp [holds, ht]⟩
  | some t =>
    have htab : reg.table resource = t := by rw [table_eq, ht]; rfl
    rw [holds_eq, htab]
    cases hl : t.releaseLevel id with
    | none =>
      simp only [ht, Option.bind_some, hl, Prod.mk.injEq] at h
      exact .inl ⟨h.1.symm, h.2.symm, LockTable.releaseLevel_eq_none_iff.mp hl⟩
    | some released =>
      obtain ⟨t', response'⟩ := released
      simp only [ht, Option.bind_some, hl, Prod.mk.injEq] at h
      obtain ⟨rfl, rfl⟩ := h
      have hh : t.holds id = true := by
        by_contra hn
        rw [LockTable.releaseLevel_eq_none_iff.mpr (by simpa using hn)] at hl
        cases hl
      refine .inr ⟨t', rfl, hh, ?_, rfl, rfl⟩
      obtain ⟨_, _, rfl, _⟩ | ⟨_, _, _, rfl, _⟩ := LockTable.releaseLevel_cases hl <;> rfl

theorem release_holds_other (h : reg.release resource id = (response, reg'))
    (hne : ¬(resource' = resource ∧ other = id)) :
    reg'.holds resource' other = reg.holds resource' other := by
  obtain ⟨-, rfl, -⟩ | ⟨t, hl, -, -, -, htab⟩ := release_cases h
  · rfl
  · obtain ⟨tables', n'⟩ := reg'
    simp only at htab
    rw [holds_eq, holds_eq, htab]
    by_cases hr : resource = resource'
    · subst hr
      have ho : other ≠ id := fun ho => hne ⟨rfl, ho⟩
      rw [← LockTable.releaseLevel_holds_other hl ho]
      split
      · rename_i he
        rw [table_erase, if_pos rfl, LockTable.isEmpty_iff.mp he other]
        rfl
      · rw [table_insert, if_pos rfl]
    · split
      · rw [table_erase, if_neg hr]; rfl
      · rw [table_insert, if_neg hr]; rfl

/-- A release never makes anybody a holder. -/
theorem release_holds_sub (h : reg.release resource id = (response, reg'))
    (hh : reg'.holds resource' other = true) : reg.holds resource' other = true := by
  by_cases hne : resource' = resource ∧ other = id
  · obtain ⟨rfl, rfl⟩ := hne
    obtain ⟨-, rfl, -⟩ | ⟨-, -, hheld, -⟩ := release_cases h
    · exact hh
    · exact hheld
  · rw [← release_holds_other h hne, hh]

theorem releaseAll_getElem? :
    (reg.releaseAll id).tables[resource]? =
      (reg.tables[resource]?.map (·.releaseHolder id)).filter (!·.isEmpty) := by
  rw [releaseAll, Std.ExtTreeMap.getElem?_filterMap']
  cases reg.tables[resource]? with
  | none => rfl
  | some t => cases he : (t.releaseHolder id).isEmpty <;> simp [Option.filter_some, he]

theorem releaseAll_holds :
    (reg.releaseAll id).holds resource other = true ↔
      reg.holds resource other = true ∧ other ≠ id := by
  rw [holds, holds, releaseAll_getElem?]
  cases reg.tables[resource]? with
  | none => simp
  | some t =>
    simp only [Option.map_some, Option.filter_some]
    rw [← LockTable.releaseHolder_holds]
    cases he : (t.releaseHolder id).isEmpty with
    | true => simp [LockTable.isEmpty_iff.mp he other]
    | false => simp

/-- `release_all` wakes the waiters exactly when it freed something. -/
theorem releaseAll_released (reg : LockRegistry) (id : HolderId) :
    (reg.releaseAll id).released = reg.released + 1 ∨
      ((reg.releaseAll id).released = reg.released ∧
        ∀ resource, reg.holds resource id = false) := by
  rw [releaseAll]
  dsimp only
  split
  · exact .inl rfl
  · rename_i hf
    refine .inr ⟨rfl, fun resource => ?_⟩
    rw [holds]
    cases ht : reg.tables[resource]? with
    | none => rfl
    | some t =>
      simp only [List.any_eq_true, not_exists, not_and, Bool.not_eq_true] at hf
      exact hf (resource, t) (Std.ExtTreeMap.mem_toList_iff_getElem?_eq_some.mpr ht)

/-- `release_all` by a holder of nothing changes nothing. -/
theorem releaseAll_of_not_holds (hne : reg.NoEmptyTable)
    (h : ∀ resource, reg.holds resource id = false) : reg.releaseAll id = reg := by
  have htab : (reg.releaseAll id).tables = reg.tables := by
    ext r : 1
    rw [releaseAll_getElem?]
    cases ht : reg.tables[r]? with
    | none => rfl
    | some t =>
      have hh : t.holds id = false := by simpa [holds, ht] using h r
      simp [LockTable.releaseHolder_of_not_holds hh, Option.filter_some, hne r t ht]
  have hcount : (reg.releaseAll id).released = reg.released := by
    rw [releaseAll]
    refine if_neg fun hfreed => ?_
    obtain ⟨⟨r, t⟩, hm, hheld⟩ := List.any_eq_true.mp hfreed
    have hh := h r
    rw [holds, Std.ExtTreeMap.mem_toList_iff_getElem?_eq_some.mp hm] at hh
    exact absurd hheld (by simpa using hh)
  generalize reg.releaseAll id = reg' at htab hcount ⊢
  obtain ⟨tables, released⟩ := reg
  obtain ⟨tables', released'⟩ := reg'
  simp only at htab hcount
  rw [htab, hcount]

theorem noEmptyTable_insert {tables : Std.ExtTreeMap String LockTable} {t : LockTable} {n m : Nat}
    (hne : NoEmptyTable ⟨tables, n⟩) (ht : t.isEmpty = false) :
    NoEmptyTable ⟨tables.insert resource t, m⟩ := by
  intro r t' hr
  simp only [Std.ExtTreeMap.getElem?_insert] at hr
  split at hr
  · obtain rfl := Option.some.inj hr
    exact ht
  · exact hne r t' hr

/-- Every call keeps the registry free of empty tables. -/
theorem apply_noEmptyTable (hne : reg.NoEmptyTable) (op : LockOp) :
    (reg.apply op).2.NoEmptyTable := by
  cases op with
  | request resource id lockString =>
    change (reg.tryRequest resource id lockString).2.NoEmptyTable
    cases hr : reg.tryRequest resource id lockString with
    | mk answer reg' =>
      cases answer with
      | none =>
        rw [tryRequest_refused hne hr]
        exact hne
      | some response =>
        obtain ⟨t, hg, rfl⟩ := tryRequest_granted hr
        refine noEmptyTable_insert hne (Bool.eq_false_iff.mpr fun he => ?_)
        have := (LockTable.grant_holds hg id).mpr (.inr rfl)
        rw [LockTable.isEmpty_iff.mp he id] at this
        cases this
  | release resource id =>
    change (reg.release resource id).2.NoEmptyTable
    cases hr : reg.release resource id with
    | mk response reg' =>
      obtain ⟨-, rfl, -⟩ | ⟨t, -, -, -, -, htab⟩ := release_cases hr
      · exact hne
      · obtain ⟨tables', n'⟩ := reg'
        simp only at htab
        subst htab
        split
        · intro r t' ht'
          rw [Std.ExtTreeMap.getElem?_erase] at ht'
          split at ht'
          · cases ht'
          · exact hne r t' ht'
        · exact noEmptyTable_insert hne (by simpa using ‹¬t.isEmpty = true›)
  | releaseAll id =>
    intro r t ht
    rw [apply, releaseAll_getElem?] at ht
    simpa using (Option.filter_eq_some_iff.mp ht).2

/-- What one call can leave in the table of a resource. -/
theorem apply_table_cases (hne : reg.NoEmptyTable) (op : LockOp) (resource : String) :
    ((reg.apply op).2.table resource = reg.table resource ∧
      (∀ id lockString, op = .request resource id lockString → (reg.apply op).1 = none) ∧
      (∀ id, op = .release resource id → (reg.apply op).1 = some .error) ∧
      ∀ id, op ≠ .releaseAll id) ∨
    (∃ id lockString response, op = .request resource id lockString ∧
      (reg.apply op).1 = some response ∧ (reg.table resource).grant id lockString =
        some ((reg.apply op).2.table resource, response)) ∨
    (∃ id response table, op = .release resource id ∧ (reg.apply op).1 = some response ∧
      response.isSuccess = true ∧ (reg.table resource).releaseLevel id = some (table, response) ∧
      (reg.apply op).2.table resource = table.stored) ∨
    (∃ id, op = .releaseAll id ∧
      (reg.apply op).2.table resource = ((reg.table resource).releaseHolder id).stored) := by
  cases op with
  | request resource' id lockString =>
    simp only [apply]
    cases hr : reg.tryRequest resource' id lockString with
    | mk answer reg' =>
      cases answer with
      | none =>
        obtain rfl := tryRequest_refused hne hr
        exact .inl ⟨rfl, fun _ _ _ => rfl, nofun, nofun⟩
      | some response =>
        by_cases he : resource = resource'
        · subst he
          obtain ⟨t, hg, rfl⟩ := tryRequest_granted hr
          refine .inr (.inl ⟨id, lockString, response, rfl, rfl, ?_⟩)
          rw [table_insert, if_pos rfl, hg]
        · refine .inl ⟨granted_table_ne hr he, fun _ _ h => ?_, nofun, nofun⟩
          exact absurd (LockOp.request.inj h).1.symm he
  | release resource' id =>
    simp only [apply]
    cases hr : reg.release resource' id with
    | mk response reg' =>
      obtain ⟨rfl, rfl, -⟩ | ⟨t, hl, -, hsucc, -, htab⟩ := release_cases hr
      · exact .inl ⟨rfl, nofun, fun _ _ => rfl, nofun⟩
      · obtain ⟨tables', n'⟩ := reg'
        simp only at htab
        subst htab
        by_cases he : resource' = resource
        · subst he
          refine .inr (.inr (.inl ⟨id, response, t, rfl, rfl, hsucc, hl, ?_⟩))
          unfold LockTable.stored
          split
          · rw [table_erase, if_pos rfl]
          · rw [table_insert, if_pos rfl]
        · refine .inl ⟨?_, nofun, fun _ h => absurd (LockOp.release.inj h).1 he, nofun⟩
          split
          · rw [table_erase, if_neg he]; rfl
          · rw [table_insert, if_neg he]; rfl
  | releaseAll id =>
    simp only [apply]
    refine .inr (.inr (.inr ⟨id, rfl, ?_⟩))
    rw [table_eq, releaseAll_getElem?, table_eq]
    cases ht : reg.tables[resource]? with
    | none => simp [LockTable.releaseHolder, LockTable.holdsExclusive, LockTable.stored]
    | some t =>
      rw [Option.map_some, Option.filter_some, Option.getD_some, LockTable.stored]
      cases he : (t.releaseHolder id).isEmpty <;> simp

/-- A request or a release changes no resource but its own. -/
theorem apply_getElem?_ne {op : LockOp}
    (h : (∃ id lockString, op = .request resource id lockString) ∨ ∃ id, op = .release resource id)
    (hne : reg.NoEmptyTable) (hr : resource' ≠ resource) :
    (reg.apply op).2.tables[resource']? = reg.tables[resource']? := by
  have hc : compare resource resource' ≠ .eq := by
    rw [ne_eq, Std.LawfulEqCmp.compare_eq_iff_eq]
    exact Ne.symm hr
  rcases h with ⟨id, lockString, rfl⟩ | ⟨id, rfl⟩
  · simp only [apply]
    cases hq : reg.tryRequest resource id lockString with
    | mk answer reg' =>
      cases answer with
      | none => rw [tryRequest_refused hne hq]
      | some response =>
        obtain ⟨t, -, rfl⟩ := tryRequest_granted hq
        rw [Std.ExtTreeMap.getElem?_insert, if_neg hc]
  · simp only [apply]
    cases hq : reg.release resource id with
    | mk response reg' =>
      obtain ⟨-, rfl, -⟩ | ⟨t, -, -, -, -, htab⟩ := release_cases hq
      · rfl
      · rw [htab]
        split
        · rw [Std.ExtTreeMap.getElem?_erase, if_neg hc]
        · rw [Std.ExtTreeMap.getElem?_insert, if_neg hc]

end LockRegistry
end Ugpibd.Frontend
