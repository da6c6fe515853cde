import Ugpibd.Frontend.LockNesting

/-! Counting grants against releases. The count of a history and the two depths of a table
are kept apart here and shown to agree in every history the u32 counters can follow. -/
namespace Ugpibd.Frontend
open Ugpibd.Library

/-- The registry with the grants and the successful releases of each holder on each resource
since the holder's last `release_all`. The counts are not part of the program. -/
structure Counted where
  locks : LockRegistry := {}
  grants : String → HolderId → Nat := fun _ _ => 0
  releases : String → HolderId → Nat := fun _ _ => 0

namespace Counted
variable {s t : Counted} {op : LockOp} {resource : String} {id : HolderId}

def after (s : Counted) (op : LockOp) : Counted :=
  let answer := (s.locks.apply op).1
  let locks := (s.locks.apply op).2
  match op with
  | .request resource id _ => { s with
      locks
      grants := fun r h =>
        s.grants r h + if resource = r ∧ id = h ∧ answer.isSome = true then 1 else 0 }
  | .release resource id => { s with
      locks
      releases := fun r h =>
        s.releases r h + if resource = r ∧ id = h ∧ answer ≠ some .error then 1 else 0 }
  | .releaseAll id => {
      locks
      grants := fun r h => if id = h then 0 else s.grants r h
      releases := fun r h => if id = h then 0 else s.releases r h }

def step (s : Counted) (op : LockOp) : Option Counted := some (s.after op)

def outstanding (s : Counted) (resource : String) (id : HolderId) : Nat :=
  s.grants resource id - s.releases resource id

/-- The steps of a history in which no holder ever has 2^32 grants outstanding on a resource. -/
def fits (s : Counted) (op : LockOp) : Prop :=
  ∀ resource id, (s.after op).outstanding resource id < 2 ^ 32

@[simp] theorem after_locks : (s.after op).locks = (s.locks.apply op).2 := by
  cases op <;> rfl

/-- The counts agree with the stored depths. -/
structure Balanced (s : Counted) : Prop where
  wellFormed : s.locks.WellFormed
  balance : ∀ resource id,
    s.grants resource id = s.releases resource id + (s.locks.table resource).levels id

theorem balanced_default : Balanced {} where
  wellFormed := LockRegistry.wellFormed_default
  balance := fun _ _ => rfl

/-- A full counter is already 2^32 - 1 levels. -/
private theorem levels_of_full {table : LockTable} {lockString : String}
    (h : table.Full id lockString) : 2 ^ 32 - 1 ≤ table.levels id := by
  unfold LockTable.Full at h
  split at h
  · simp [LockTable.levels, LockTable.exclusiveDepth, h]
  · simp [LockTable.levels, LockTable.sharedDepth, Std.ExtTreeMap.getD_eq_getD_getElem?, h]

private theorem not_nestsFull_of_fits (hb : s.Balanced) (hfits : s.fits op) :
    ¬s.locks.NestsFull op := by
  cases op with
  | request resource id lockString =>
    rintro ⟨hsome, hfull⟩
    have hlt := hfits resource id
    have hbal := hb.balance resource id
    have hlev := levels_of_full hfull
    simp only [outstanding, after, LockRegistry.apply, hsome, and_self, if_true] at hlt
    omega
  | release resource id => exact not_false
  | releaseAll id => exact not_false

/-- One call keeps the counts in step with the depths. -/
theorem after_balanced (hb : s.Balanced) (hfull : ¬s.locks.NestsFull op) :
    (s.after op).Balanced := by
  refine ⟨by simpa using (LockRegistry.apply_wellFormed_iff hb.wellFormed op).mpr hfull, ?_⟩
  intro resource holder
  have hbal := hb.balance resource holder
  have hwf := hb.wellFormed.tables_wellFormed resource
  rw [after_locks]
  obtain ⟨he, hreq, hrel, hall⟩ | ⟨id, str, response, rfl, hresp, hg⟩ |
      ⟨id, response, table, rfl, hresp, hsucc, hl, he⟩ | ⟨id, rfl, he⟩ :=
    LockRegistry.apply_table_cases hb.wellFormed.no_empty_table op resource
  · rw [he]
    cases op with
    | request resource' id str =>
      have hno : ¬(resource' = resource ∧ id = holder ∧
          (s.locks.apply (.request resource' id str)).1.isSome = true) := by
        rintro ⟨rfl, -, hsome⟩
        simp [hreq id str rfl] at hsome
      simp only [after, if_neg hno]
      exact hbal
    | release resource' id =>
      have hno : ¬(resource' = resource ∧ id = holder ∧
          (s.locks.apply (.release resource' id)).1 ≠ some .error) := by
        rintro ⟨rfl, -, hne⟩
        exact hne (hrel id rfl)
      simp only [after, if_neg hno]
      exact hbal
    | releaseAll id => exact absurd rfl (hall id)
  · have hnf : ¬(s.locks.table resource).Full id str := fun hf =>
      hfull ⟨by simpa [LockRegistry.apply] using congrArg Option.isSome hresp, hf⟩
    have hlev := LockTable.grant_levels hg hnf holder
    simp only [after, hresp, Option.isSome_some, true_and, and_true]
    omega
  · have hlev := LockTable.releaseLevel_levels hwf hl holder
    have hne : response ≠ .error := by
      rintro rfl
      cases hsucc
    rw [he, LockTable.stored_levels]
    simp only [after, hresp, true_and, ne_eq, Option.some.injEq, hne, not_false_eq_true, and_true]
    omega
  · rw [he, LockTable.stored_levels, LockTable.levels, LockTable.exclusiveDepth_releaseHolder,
      LockTable.sharedDepth_releaseHolder]
    simp only [after]
    split
    · rfl
    · exact hbal

theorem balanced_of_reach (h : Reach step fits {} s) : s.Balanced := by
  refine h.invariant balanced_default fun s op t hb hfits hstep => ?_
  obtain rfl := Option.some.inj hstep
  exact after_balanced hb (not_nestsFull_of_fits hb hfits)

theorem Balanced.outstanding_eq (hb : s.Balanced) (resource : String) (id : HolderId) :
    s.outstanding resource id = (s.locks.table resource).levels id := by
  rw [outstanding, hb.balance]
  omega

theorem Balanced.holds_iff (hb : s.Balanced) (resource : String) (id : HolderId) :
    s.locks.holds resource id = true ↔ 0 < s.outstanding resource id := by
  rw [LockRegistry.holds_eq, hb.outstanding_eq,
    LockTable.levels_pos_iff (hb.wellFormed.tables_wellFormed resource)]

theorem Balanced.release_error_iff (hb : s.Balanced) (resource : String) (id : HolderId) :
    (s.locks.release resource id).1 = .error ↔ s.outstanding resource id = 0 := by
  have hheld := hb.holds_iff resource id
  cases hr : s.locks.release resource id with
  | mk response locks =>
    obtain ⟨rfl, -, hn⟩ | ⟨_, _, hh, hsucc, _⟩ := LockRegistry.release_cases hr
    · rw [hn] at hheld
      simp at hheld
      simpa using hheld
    · have hne : response ≠ .error := by
        rintro rfl
        cases hsucc
      have hpos := hheld.mp hh
      exact iff_of_false hne (by omega)

theorem Balanced.outstanding_after_release (hb : s.Balanced) :
    (s.after (.release resource id)).outstanding resource id = s.outstanding resource id - 1 := by
  have herr := hb.release_error_iff resource id
  simp only [outstanding, after, LockRegistry.apply, true_and, ne_eq, Option.some.injEq] at herr ⊢
  split
  · omega
  · rename_i he
    have := herr.mp (not_not.mp he)
    omega

/-- Released one level at a time, a resource is held for exactly the outstanding number of
releases. -/
theorem Balanced.holds_after_releases (hb : s.Balanced) (n : Nat) :
    ((fun s => s.after (.release resource id))^[n] s).locks.holds resource id = true ↔
      n < s.outstanding resource id := by
  induction n generalizing s with
  | zero => exact hb.holds_iff resource id
  | succ n ih =>
    have hb' : (s.after (.release resource id)).Balanced := after_balanced hb not_false
    rw [Function.iterate_succ_apply, ih hb', hb.outstanding_after_release]
    omega

end Counted

/-- The reported number of holders, in the u32 it is reported in. -/
theorem LockTable.holders_eq (table : LockTable) :
    table.holders = UInt32.ofNat (Set.ncard {id | table.holds id = true}) := by
  have hfin : (↑table.shared.keys.toFinset : Set HolderId) = {id | id ∈ table.shared} := by
    ext id
    simp
  have hcard : table.shared.keys.toFinset.card = table.shared.size := by
    rw [List.toFinset_card_of_nodup Std.ExtTreeMap.nodup_keys, Std.ExtTreeMap.length_keys]
  unfold LockTable.holders
  simp only [LockTable.holds_iff]
  cases hx : table.exclusive with
  | none =>
    simp only [reduceCtorEq, exists_false, false_or, add_zero]
    rw [← hfin, Set.ncard_coe_finset, hcard]
  | some entry =>
    obtain ⟨holder, depth⟩ := entry
    have hset : {id | (∃ d, some (holder, depth) = some (id, d)) ∨ id ∈ table.shared} =
        insert holder {id | id ∈ table.shared} := by
      ext id
      simp [eq_comm]
    rw [hset, ← hfin, ← Finset.coe_insert, Set.ncard_coe_finset]
    by_cases hm : holder ∈ table.shared
    · rw [Finset.insert_eq_of_mem (by simpa using hm), hcard]
      simp [hm]
    · rw [Finset.card_insert_of_notMem (by simpa using hm), hcard]
      simp [hm]

theorem LockRegistry.info_eq (reg : LockRegistry) (resource : String) :
    reg.info resource = ((reg.table resource).exclusive.isSome, (reg.table resource).holders) := by
  rw [LockRegistry.info, LockRegistry.table_eq]
  cases reg.tables[resource]? with
  | none => simp [LockTable.holders]
  | some table => rfl

/-- The requests the front-ends make: a VXI-11 link asks for exclusive locks only. -/
def LockOp.FromFrontend : LockOp → Prop
  | .request _ id lockString =>
    (∃ sessionId, id = hislipId sessionId) ∨ (lockString = "" ∧ ∃ lid, id = vxi11Id lid)
  | .release .. | .releaseAll _ => True

namespace Counted
variable {s t : Counted} {op : LockOp} {resource : String} {id : HolderId}

/-- Shared holders are HiSLIP sessions where only the front-ends make requests. -/
private theorem shared_hislip_of_reach
    (h : Reach step (fun s op => s.fits op ∧ op.FromFrontend) {} s) (resource : String)
    (holder : HolderId) (hm : holder ∈ (s.locks.table resource).shared) :
    ∃ sessionId, holder = hislipId sessionId := by
  suffices hinv : s.Balanced ∧ ∀ resource holder, holder ∈ (s.locks.table resource).shared →
      ∃ sessionId, holder = hislipId sessionId from hinv.2 resource holder hm
  refine Reach.invariant (P := fun s => s.Balanced ∧ ∀ resource holder,
    holder ∈ (s.locks.table resource).shared → ∃ sessionId, holder = hislipId sessionId) h
    ⟨balanced_default, by simp [LockRegistry.table]⟩ ?_
  rintro s op t ⟨hb, hshared⟩ ⟨hfits, hfront⟩ hstep
  obtain rfl := Option.some.inj hstep
  refine ⟨after_balanced hb (not_nestsFull_of_fits hb hfits), fun resource holder hm => ?_⟩
  rw [after_locks] at hm
  obtain ⟨he, -⟩ | ⟨id, str, response, rfl, -, hg⟩ | ⟨id, response, table, rfl, -, -, hl, he⟩ |
      ⟨id, rfl, he⟩ := LockRegistry.apply_table_cases hb.wellFormed.no_empty_table op resource
  · exact hshared resource holder (he ▸ hm)
  · generalize (s.locks.apply (.request resource id str)).2.table resource = table' at hm hg
    obtain ⟨_, _, _, _, rfl⟩ | ⟨_, _, _, _, rfl⟩ | ⟨hstr, _, _, _, rfl⟩ := LockTable.grant_cases hg
    · exact hshared resource holder hm
    · exact hshared resource holder hm
    · rcases Std.ExtTreeMap.mem_insert.mp hm with hc | hm
      · obtain rfl := Std.LawfulEqCmp.compare_eq_iff_eq.mp hc
        rcases hfront with hid | ⟨hempty, -⟩
        · exact hid
        · exact absurd hempty hstr
      · exact hshared resource holder hm
  · rw [he] at hm
    have hst := LockTable.stored_of_mem_shared hm
    rw [hst] at hm
    exact hshared resource holder (LockTable.releaseLevel_shared_sub hl hm)
  · rw [he] at hm
    have hst := LockTable.stored_of_mem_shared hm
    rw [hst, LockTable.releaseHolder_shared] at hm
    exact hshared resource holder (Std.ExtTreeMap.mem_erase.mp hm).2

/-- There are not enough HiSLIP ids for the number of holders to wrap. -/
private theorem holders_lt_of_reach
    (h : Reach step (fun s op => s.fits op ∧ op.FromFrontend) {} s) (resource : String) :
    Set.ncard {id | s.locks.holds resource id = true} < 2 ^ 32 := by
  let sessions := (Finset.range (2 ^ 16)).image fun n => hislipId (UInt16.ofNat n)
  let exclusive := ((s.locks.table resource).exclusive.map Prod.fst).toFinset
  have hsub : {id | s.locks.holds resource id = true} ⊆ ↑(exclusive ∪ sessions) := by
    intro id hid
    have hid := LockTable.holds_iff.mp (LockRegistry.holds_eq.symm.trans hid)
    rw [Finset.mem_coe, Finset.mem_union]
    rcases hid with ⟨depth, hx⟩ | hm
    · exact .inl (by simp [exclusive, hx])
    · obtain ⟨sessionId, rfl⟩ := shared_hislip_of_reach h resource id hm
      refine .inr (Finset.mem_image.mpr ⟨sessionId.toNat, ?_, by simp⟩)
      exact Finset.mem_range.mpr sessionId.toNat_lt
  have hcard : (exclusive ∪ sessions).card ≤ 1 + 2 ^ 16 := by
    refine (Finset.card_union_le _ _).trans (Nat.add_le_add ?_ ?_)
    · cases hx : (s.locks.table resource).exclusive <;> simp [exclusive, hx]
    · exact Finset.card_image_le.trans (Finset.card_range _).le
  calc Set.ncard {id | s.locks.holds resource id = true}
      ≤ Set.ncard (↑(exclusive ∪ sessions) : Set HolderId) :=
        Set.ncard_le_ncard hsub (Finset.finite_toSet _)
    _ = (exclusive ∪ sessions).card := Set.ncard_coe_finset _
    _ < 2 ^ 32 := hcard.trans_lt (by norm_num)

/-- In every history that keeps each holder below 2^32 outstanding grants, grants less releases
are the two stored depths together; `release`, `holds` and `info` report that number, and
`release_all` takes it to zero for one holder. The count of `info` is a u32; it is the exact
number of holders where the front-ends make the requests. -/
theorem nesting_counts_match {s : Counted} (h : Reach step fits {} s) :
    (∀ resource id, s.grants resource id = s.releases resource id +
      (((s.locks.table resource).exclusiveDepth id).toNat +
        ((s.locks.table resource).sharedDepth id).toNat)) ∧
    (∀ resource id, (s.locks.release resource id).1 = .error ↔ s.outstanding resource id = 0) ∧
    (∀ resource id, s.locks.holds resource id = true ↔ 0 < s.outstanding resource id) ∧
    (∀ resource, (s.locks.info resource).1 = true ↔
      ∃ id, 0 < (s.locks.table resource).exclusiveDepth id) ∧
    (∀ resource, (s.locks.info resource).2 =
      UInt32.ofNat (Set.ncard {id | 0 < s.outstanding resource id})) ∧
    (Reach step (fun s op => s.fits op ∧ op.FromFrontend) {} s → ∀ resource,
      (s.locks.info resource).2.toNat = Set.ncard {id | 0 < s.outstanding resource id}) ∧
    (∀ id resource other,
      ((s.locks.releaseAll id).table resource).exclusiveDepth other =
        (if id = other then 0 else (s.locks.table resource).exclusiveDepth other) ∧
      ((s.locks.releaseAll id).table resource).sharedDepth other =
        (if id = other then 0 else (s.locks.table resource).sharedDepth other)) ∧
    (∀ resource id n, ((fun s => s.after (.release resource id))^[n] s).locks.holds resource id =
      decide (n < s.outstanding resource id)) := by
  have hb := balanced_of_reach h
  have hinfo : ∀ resource, (s.locks.info resource).2 =
      UInt32.ofNat (Set.ncard {id | 0 < s.outstanding resource id}) := by
    intro resource
    simp only [LockRegistry.info_eq, LockTable.holders_eq, ← hb.holds_iff, LockRegistry.holds_eq]
  refine ⟨hb.balance, hb.release_error_iff, hb.holds_iff, fun resource => ?_, hinfo,
    fun hfront resource => ?_, fun id resource other => ?_, fun resource id n => ?_⟩
  · simp only [LockRegistry.info_eq,
      LockTable.exclusiveDepth_pos_iff (hb.wellFormed.tables_wellFormed resource)]
    rw [Option.isSome_iff_exists, Prod.exists]
  · have hlt := holders_lt_of_reach hfront resource
    simp only [hb.holds_iff] at hlt
    rw [hinfo, UInt32.toNat_ofNat_of_lt' hlt]
  · obtain ⟨-, -, -, hall⟩ | ⟨_, _, _, hop, _⟩ | ⟨_, _, _, hop, _⟩ | ⟨id', hop, he⟩ :=
      LockRegistry.apply_table_cases hb.wellFormed.no_empty_table (.releaseAll id) resource
    · exact absurd rfl (hall id)
    · cases hop
    · cases hop
    · cases hop
      change (s.locks.releaseAll id).table resource = _ at he
      rw [he, LockTable.stored_exclusiveDepth, LockTable.stored_sharedDepth]
      exact ⟨LockTable.exclusiveDepth_releaseHolder, LockTable.sharedDepth_releaseHolder⟩
  · rw [Bool.eq_iff_iff, hb.holds_after_releases, decide_eq_true_iff]

private theorem fits_of_grants_le {n : Nat} (h : ∀ resource id, s.grants resource id ≤ n)
    (hn : n + 1 < 2 ^ 32) : s.fits op := by
  intro resource id
  have hg := h resource id
  refine (Nat.sub_le _ _).trans_lt (Nat.lt_of_le_of_lt ?_ hn)
  cases op with
  | request resource' id' str =>
    simp only [after]
    split <;> omega
  | release resource' id' => exact hg.trans (Nat.le_succ n)
  | releaseAll id' =>
    simp only [after]
    split <;> omega

/-- One session with an exclusive and a shared level on the same instrument. -/
def mixed : Counted :=
  (after {} (.request "gpib23" (hislipId 1) "")).after (.request "gpib23" (hislipId 1) "bench")

private theorem mixed_reach : Reach step (fun s op => s.fits op ∧ op.FromFrontend) {} mixed := by
  have hfirst : ∀ resource id,
      (after {} (.request "gpib23" (hislipId 1) "")).grants resource id ≤ 1 := by
    intro resource id
    simp only [after]
    split <;> omega
  have hfits : fits {} (.request "gpib23" (hislipId 1) "") :=
    fits_of_grants_le (n := 0) (fun _ _ => le_rfl) (by norm_num)
  have hfront : ∀ str, (LockOp.request "gpib23" (hislipId 1) str).FromFrontend :=
    fun _ => Or.inl ⟨1, rfl⟩
  exact (Reach.refl.tail ⟨hfits, hfront ""⟩ rfl).tail
    ⟨fits_of_grants_le hfirst (by norm_num), hfront "bench"⟩ rfl

theorem mixed_levels_take_two_releases :
    mixed.outstanding "gpib23" (hislipId 1) = 2 ∧
    (mixed.locks.info "gpib23").2.toNat =
      Set.ncard {id | 0 < mixed.outstanding "gpib23" id} ∧
    ∀ n, ((fun s => s.after (.release "gpib23" (hislipId 1)))^[n] mixed).locks.holds "gpib23"
      (hislipId 1) = decide (n < 2) := by
  have hout : mixed.outstanding "gpib23" (hislipId 1) = 2 := by decide
  obtain ⟨-, -, -, -, -, hcount, -, hheld⟩ := nesting_counts_match (mixed_reach.mono fun _ _ h => h.1)
  refine ⟨hout, hcount mixed_reach "gpib23", fun n => ?_⟩
  rw [hheld, hout]

end Counted
end Ugpibd.Frontend
