import Ugpibd.Frontend.LockInvariant

/-! The registry over whole histories of calls. A record of the names each shared holder
asked for runs beside it, so that "under one name" speaks of the requests made. -/
namespace Ugpibd.Frontend
open Ugpibd.Library

/-- The registry and, for each shared holder of each resource, the lock strings of the grants
its entry is made of. The record is not part of the program. -/
structure Audited where
  locks : LockRegistry := {}
  names : String → HolderId → List String := fun _ _ => []

namespace Audited
variable {s t : Audited} {op : LockOp}

def recordName (s : Audited) (op : LockOp) (resource : String) (holder : HolderId) : List String :=
  match op, (s.locks.apply op).1 with
  | .request resource' id lockString, some .successShared =>
    if resource' = resource ∧ id = holder then lockString :: s.names resource holder
    else s.names resource holder
  | _, _ => s.names resource holder

/-- One call; a holder that leaves the shared set takes its names with it. -/
def after (s : Audited) (op : LockOp) : Audited :=
  let locks := (s.locks.apply op).2
  { locks
    names := fun resource holder =>
      if (locks.table resource).shared.contains holder then s.recordName op resource holder
      else [] }

def step (s : Audited) (op : LockOp) : Option Audited := some (s.after op)

/-- The registry is well formed, and every name a shared holder was granted under is the one
name its resource stores. -/
structure Sound (s : Audited) : Prop where
  wellFormed : s.locks.WellFormed
  named_iff : ∀ resource holder,
    s.names resource holder ≠ [] ↔ holder ∈ (s.locks.table resource).shared
  one_name : ∀ resource holder, ∀ name ∈ s.names resource holder,
    (s.locks.table resource).sharedName = some name

theorem sound_default : Sound {} where
  wellFormed := LockRegistry.wellFormed_default
  named_iff := by simp [LockRegistry.table]
  one_name := by simp

/-- A call keeps the names behind every shared entry it leaves in a table. -/
private theorem recordName_kept (hs : s.Sound) (op : LockOp) (resource : String) (holder : HolderId)
    (hm : holder ∈ ((s.locks.apply op).2.table resource).shared) :
    s.recordName op resource holder ≠ [] ∧ ∀ name ∈ s.recordName op resource holder,
      ((s.locks.apply op).2.table resource).sharedName = some name := by
  have hold : holder ∈ (s.locks.table resource).shared → s.names resource holder ≠ [] ∧
      ∀ name ∈ s.names resource holder, (s.locks.table resource).sharedName = some name :=
    fun hmem => ⟨(hs.named_iff resource holder).mpr hmem, hs.one_name resource holder⟩
  obtain ⟨he, hnone, -⟩ | ⟨id, str, response, rfl, hresp, hg⟩ | ⟨id, response, table', rfl, -, -, hl, he⟩ |
      ⟨id, rfl, he⟩ := LockRegistry.apply_table_cases hs.wellFormed.no_empty_table op resource
  · rw [he] at hm ⊢
    have hrec : s.recordName op resource holder = s.names resource holder := by
      unfold recordName
      split
      · rename_i resource' id str hsome
        rw [if_neg]
        rintro ⟨rfl, -⟩
        rw [hnone id str rfl] at hsome
        cases hsome
      · rfl
    rw [hrec]
    exact hold hm
  · generalize (s.locks.apply (.request resource id str)).2.table resource = table' at hm hg ⊢
    obtain ⟨_, _, _, rfl, rfl⟩ | ⟨_, _, _, rfl, rfl⟩ | ⟨_, _, hn, rfl, rfl⟩ := LockTable.grant_cases hg
    · simp only [recordName, hresp]
      exact hold hm
    · simp only [recordName, hresp]
      exact hold hm
    · simp only [recordName, hresp, true_and]
      -- whoever was there before was there under the string this grant carries
      have hsame : ∀ name ∈ s.names resource holder, some str = some name := by
        intro name hname
        rw [hn name (hs.one_name resource holder name hname)]
      split
      · refine ⟨by simp, fun name hname => ?_⟩
        rcases List.mem_cons.mp hname with rfl | hname
        · rfl
        · exact hsame name hname
      · rename_i hid
        refine ⟨(hs.named_iff resource holder).mpr ?_, hsame⟩
        rcases Std.ExtTreeMap.mem_insert.mp hm with hc | hmem
        · exact absurd (Std.LawfulEqCmp.compare_eq_iff_eq.mp hc) hid
        · exact hmem
  · change s.names resource holder ≠ [] ∧ ∀ name ∈ s.names resource holder, _
    rw [he] at hm ⊢
    have hst := LockTable.stored_of_mem_shared hm
    rw [hst] at hm ⊢
    obtain ⟨_, _, _, rfl⟩ | ⟨depth, _, _, _, rfl⟩ := LockTable.releaseLevel_cases hl
    · exact hold hm
    · have hmem := LockTable.releaseLevel_shared_sub hl hm
      split at hm
      · rename_i hz
        rw [if_pos hz, LockTable.removeShared_sharedName hm]
        exact hold hmem
      · rename_i hz
        rw [if_neg hz]
        exact hold hmem
  · change s.names resource holder ≠ [] ∧ ∀ name ∈ s.names resource holder, _
    rw [he] at hm ⊢
    have hst := LockTable.stored_of_mem_shared hm
    rw [hst] at hm ⊢
    rw [LockTable.releaseHolder_sharedName hm]
    rw [LockTable.releaseHolder_shared] at hm
    exact hold (Std.ExtTreeMap.mem_erase.mp hm).2

/-- One call keeps the audited registry sound exactly when it nests no full lock. -/
theorem after_sound_iff (hs : s.Sound) (op : LockOp) :
    (s.after op).Sound ↔ ¬s.locks.NestsFull op := by
  rw [← LockRegistry.apply_wellFormed_iff hs.wellFormed op]
  refine ⟨fun hs' => hs'.wellFormed, fun hwf => ⟨hwf, fun resource holder => ?_, fun resource holder => ?_⟩⟩
  · simp only [after, Std.ExtTreeMap.contains_iff_mem]
    split
    · rename_i hm
      exact iff_of_true (recordName_kept hs op resource holder hm).1 hm
    · rename_i hm
      exact iff_of_false (by simp) hm
  · simp only [after, Std.ExtTreeMap.contains_iff_mem]
    split
    · rename_i hm
      exact (recordName_kept hs op resource holder hm).2
    · simp

/-- The steps of a run that never nests a lock whose depth counter is full. -/
def depthsFit (s : Audited) (op : LockOp) : Prop := ¬s.locks.NestsFull op

instance : Decidable (s.depthsFit op) := inferInstanceAs (Decidable (¬_))

/-- In every run that nests no full lock, every state reached is sound. There a call breaks
soundness only by nesting a full lock, a refused request and a release answered with Error
change nothing at all, and a request or release changes no other resource. -/
theorem registry_sound_of_depthsFit (h : Reach step depthsFit {} s) :
    s.Sound ∧ (∀ op, (s.after op).Sound ↔ s.depthsFit op) ∧
    (∀ resource id lockString, (s.locks.tryRequest resource id lockString).1 = none →
      (s.locks.tryRequest resource id lockString).2 = s.locks) ∧
    (∀ resource id, (s.locks.release resource id).1 = .error →
      (s.locks.release resource id).2 = s.locks) ∧
    (∀ resource other id lockString, other ≠ resource →
      (s.locks.tryRequest resource id lockString).2.tables[other]? = s.locks.tables[other]? ∧
      (s.locks.release resource id).2.tables[other]? = s.locks.tables[other]?) := by
  have hs : s.Sound := by
    refine h.invariant sound_default fun s op t hs hfit hstep => ?_
    obtain rfl := Option.some.inj hstep
    exact (after_sound_iff hs op).mpr hfit
  have hne := hs.wellFormed.no_empty_table
  refine ⟨hs, after_sound_iff hs, fun resource id str hr => ?_, fun resource id hr => ?_,
    fun resource other id str ho => ⟨?_, ?_⟩⟩
  · exact LockRegistry.tryRequest_refused hne (Prod.ext hr rfl)
  · obtain ⟨-, he, -⟩ | ⟨_, _, _, hsucc, _⟩ := LockRegistry.release_cases
      (Prod.ext hr rfl : s.locks.release resource id = (.error, (s.locks.release resource id).2))
    · exact he
    · cases hsucc
  · exact LockRegistry.apply_getElem?_ne (.inl ⟨id, str, rfl⟩) hne ho
  · exact LockRegistry.apply_getElem?_ne (.inr ⟨id, rfl⟩) hne ho

theorem registry_sound_after_two_grants :
    Reach step depthsFit {} ((Audited.after {} (.request "gpib23" (hislipId 1) "")).after
      (.request "gpib23" (hislipId 1) "bench")) ∧
    ((Audited.after {} (.request "gpib23" (hislipId 1) "")).after
      (.request "gpib23" (hislipId 1) "bench")).Sound := by
  have hr : Reach step depthsFit {} ((Audited.after {} (.request "gpib23" (hislipId 1) "")).after
      (.request "gpib23" (hislipId 1) "bench")) :=
    (Reach.refl.tail (by decide) rfl).tail (by decide) rfl
  exact ⟨hr, (registry_sound_of_depthsFit hr).1⟩

/-- Nested exclusive requests count up in the stored depth, modulo its width. -/
private theorem exec_nested_requests {resource : String} {id : HolderId} {depth : UInt32}
    (h : (s.locks.table resource).exclusive = some (id, depth)) (n : Nat) :
    ∃ t, exec step s (List.replicate n (.request resource id "")) = some t ∧
      (t.locks.table resource).exclusive = some (id, depth + UInt32.ofNat n) := by
  induction n generalizing s depth with
  | zero => exact ⟨s, rfl, by simpa using h⟩
  | succ n ih =>
    have hnext : ((s.after (.request resource id "")).locks.table resource).exclusive =
        some (id, depth + 1) := by
      have hg : (s.locks.table resource).grant id "" = some
          ({ s.locks.table resource with exclusive := some (id, depth + 1) }, .successExclusive) := by
        simp [LockTable.grant, h]
      rw [LockRegistry.table] at hg
      simp only [after, LockRegistry.apply, LockRegistry.tryRequest, hg,
        LockRegistry.table_insert, if_true]
    obtain ⟨t, ht, hd⟩ := ih hnext
    refine ⟨t, ht, ?_⟩
    rw [hd, add_assoc, add_comm 1, UInt32.ofNat_add]
    rfl

private theorem exec_requests_on_free (n : Nat) :
    ∃ t, exec step {} (List.replicate (n + 1) (.request "gpib23" (hislipId 1) "")) = some t ∧
      (t.locks.table "gpib23").exclusive = some (hislipId 1, 1 + UInt32.ofNat n) :=
  exec_nested_requests (s := Audited.after {} (.request "gpib23" (hislipId 1) "")) (by decide) n

/-- The release build counts 2^32 nested exclusive requests as depth zero. -/
theorem nested_requests_store_depth_zero :
    ∃ t, exec step {} (List.replicate (2 ^ 32) (.request "gpib23" (hislipId 1) "")) = some t ∧
      (t.locks.table "gpib23").exclusive = some (hislipId 1, 0) ∧ ¬t.Sound := by
  obtain ⟨t, ht, hd⟩ := exec_requests_on_free (2 ^ 32 - 1)
  rw [show 1 + UInt32.ofNat (2 ^ 32 - 1) = 0 from rfl] at hd
  refine ⟨t, ht, hd, fun hs => ?_⟩
  have hpos := (hs.wellFormed.tables_wellFormed "gpib23").exclusive_depth _ _ hd
  exact absurd hpos (by decide)

end Audited
end Ugpibd.Frontend
