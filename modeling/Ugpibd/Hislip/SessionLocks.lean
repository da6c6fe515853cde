import Ugpibd.Hislip.SessionTable

/-! Whose locks the HiSLIP ids in the registry are. The session table keeps ids apart by itself;
the locks follow the synchronous channel only as far as the asynchronous one stops with it. -/
namespace Ugpibd.Hislip
open Frontend Library

namespace Server
variable {s s' : Server} {a : Action} {n : Nat} {session : Session}

/-- Every lock under a HiSLIP id is that of one live session with that id, which made all the
requests it is made up of. -/
structure Owned (s : Server) : Prop where
  noEmptyTable : s.locks.NoEmptyTable
  taken_held : ∀ resource holder, s.takenBy resource holder ≠ [] →
    s.locks.holds resource holder = true
  owner : ∀ resource id, s.locks.holds resource (hislipId id) = true → ∃ n session,
    s.sessions n = some session ∧ session.id = id ∧ session.live = true ∧
    s.takenBy resource (hislipId id) ≠ [] ∧ ∀ m ∈ s.takenBy resource (hislipId id), m = n

theorem owned_default (maxSessions : Nat) : Owned { maxSessions } where
  noEmptyTable := LockRegistry.noEmptyTable_default
  taken_held := by
    intro resource holder h
    exact absurd rfl h
  owner := by
    intro resource id h
    simp [LockRegistry.holds] at h

/-- Moving a session along keeps the locks owned while it stays live, or holds nothing. -/
private theorem put_owned (h : s.Owned) {moved : Session} (hn : s.sessions n = some session)
    (hid : moved.id = session.id) (hlive : session.live = true → moved.live = true ∨
      ∀ resource, s.locks.holds resource session.holder = false) : (s.put n moved).Owned where
  noEmptyTable := h.noEmptyTable
  taken_held := h.taken_held
  owner := by
    intro resource id hheld
    obtain ⟨m, other, hm, hoid, hl, htaken⟩ := h.owner resource id hheld
    by_cases hmn : m = n
    · subst hmn
      obtain rfl := Option.some.inj (hn.symm.trans hm)
      rcases hlive hl with hmoved | hfree
      · exact ⟨m, moved, put_self m moved, hid.trans hoid, hmoved, htaken⟩
      · have hno := hfree resource
        rw [Session.holder, hoid] at hno
        exact absurd (hheld.symm.trans hno) (by simp)
    · exact ⟨m, other, by rw [put_sessions, if_neg hmn, hm], hoid, hl, htaken⟩

/-- A call that takes locks away and gives none leaves the rest with their owners. -/
private theorem relock_owned (h : s.Owned) {locks : LockRegistry} (hne : locks.NoEmptyTable)
    (hsub : ∀ resource id, locks.holds resource (hislipId id) = true →
      s.locks.holds resource (hislipId id) = true) : (s.relock locks none).Owned where
  noEmptyTable := hne
  taken_held := by
    intro resource holder htaken
    rw [relock_takenBy] at htaken
    exact Takers.holds_of_update_ne_nil htaken
  owner := by
    intro resource id hheld
    rw [relock_locks] at hheld
    obtain ⟨m, other, hm, hoid, hl, htaken⟩ := h.owner resource id (hsub resource id hheld)
    refine ⟨m, other, hm, hoid, hl, ?_⟩
    rwa [relock_takenBy, Takers.update_of_ne hheld nofun]

/-- A lock granted to a live session is its own: any it nests on was taken by it as well. -/
private theorem granted_owned (ht : s.Tabled) (h : s.Owned) (hn : s.sessions n = some session)
    (hlive : session.live = true) {lockString : String} {response : LockResponse}
    {locks : LockRegistry}
    (hr : s.locks.tryRequest session.resource session.holder lockString = (some response, locks)) :
    (s.relock locks (some (n, session.resource, session.holder))).Owned where
  noEmptyTable := by
    have := LockRegistry.apply_noEmptyTable h.noEmptyTable
      (.request session.resource session.holder lockString)
    rwa [LockRegistry.apply, hr] at this
  taken_held := by
    intro resource holder htaken
    rw [relock_takenBy] at htaken
    exact Takers.holds_of_update_ne_nil htaken
  owner := by
    intro resource id hheld
    rw [relock_locks] at hheld
    rw [relock_takenBy]
    rcases Takers.update_of_granted hr hheld with ⟨rfl, hid⟩ | ⟨hheld', hsame⟩
    · have hid' : session.id = id := hislipId_injective hid.symm
      refine ⟨n, session, hn, hid', hlive, List.ne_nil_of_mem (Takers.mem_update.mpr
        ⟨hheld, .inr (by rw [hid])⟩), fun m hm => ?_⟩
      rcases (Takers.mem_update.mp hm).2 with hm | hm
      · -- the lock it nests on has an owner with the same id, and live ids are unique
        have hheld' := h.taken_held _ _ (List.ne_nil_of_mem hm)
        obtain ⟨k, other, hk, hoid, hl, -, hall⟩ := h.owner _ id hheld'
        rw [hall m hm]
        exact ht.live_unique hk hl hn hlive (hoid.trans hid'.symm)
      · exact (congrArg Prod.fst (Option.some.inj hm)).symm
    · rw [hsame]
      exact h.owner resource id hheld'

private theorem opened_owned (ht : s.Tabled) (h : s.Owned) (resource : String) (id : UInt16) :
    Owned { s.put s.created { id, resource } with
      entries := s.entries.insert id s.created, created := s.created + 1 } where
  noEmptyTable := h.noEmptyTable
  taken_held := h.taken_held
  owner := by
    intro resource' id' hheld
    obtain ⟨m, other, hm, hrest⟩ := h.owner resource' id' hheld
    refine ⟨m, other, ?_, hrest⟩
    change (s.put _ _).sessions m = some other
    rw [put_sessions, if_neg, hm]
    rintro rfl
    rw [ht.fresh _ (Nat.le_refl _)] at hm
    cases hm

private theorem ended_owned (h : s.Owned) (hn : s.sessions n = some session) :
    Owned { (s.relock (s.locks.releaseAll session.holder) none).put n
      { session with sync := .ended } with removals := session.id :: s.removals } := by
  have hrelock : (s.relock (s.locks.releaseAll session.holder) none).Owned :=
    relock_owned h (LockRegistry.apply_noEmptyTable h.noEmptyTable (.releaseAll session.holder))
      fun resource id hheld => (LockRegistry.releaseAll_holds.mp hheld).1
  have hput := put_owned hrelock hn (rfl : ({ session with sync := .ended } : Session).id = session.id) fun _ =>
    .inr fun resource => Bool.eq_false_iff.mpr fun hheld =>
      (LockRegistry.releaseAll_holds.mp hheld).2 rfl
  exact ⟨hput.noEmptyTable, hput.taken_held, hput.owner⟩

/-- One step keeps every lock with a live owner, as long as the asynchronous channel stops
where the synchronous one does. -/
theorem step_owned (ht : s.Tabled) (h : s.Owned) (hg : s.asyncFollowsSync a)
    (hstep : s.step a = some s') : s'.Owned := by
  cases step_effect hstep with
  | unchanged => exact h
  | opened resource id hfree => exact opened_owned ht h resource id
  | answered n session written hn hsync =>
    refine put_owned h hn rfl fun _ => ?_
    cases written with
    | true => exact .inl rfl
    | false => exact .inr (hg rfl session hn)
  | moved n session async hn => exact put_owned h hn rfl fun hl => .inl hl
  | granted n session lockString response locks hn hr hlive =>
    exact put_owned (granted_owned ht h hn (hlive hg) hr) hn rfl fun hl => .inl hl
  | refused n session lockString locks async hn hr =>
    obtain rfl := LockRegistry.tryRequest_refused h.noEmptyTable hr
    exact put_owned (relock_owned h h.noEmptyTable fun _ _ hheld => hheld) hn rfl fun hl => .inl hl
  | unlocked n session hn =>
    exact relock_owned h (LockRegistry.apply_noEmptyTable h.noEmptyTable
      (.release session.resource session.holder)) fun _ _ => LockRegistry.release_holds_sub rfl
  | ended n session hn hsync => exact ended_owned h hn
  | removed id hid => exact ⟨h.noEmptyTable, h.taken_held, h.owner⟩
  | link lid call =>
    refine relock_owned h (LockRegistry.apply_noEmptyTable h.noEmptyTable _) fun resource id hheld => ?_
    rwa [LockRegistry.madeBy_holds_other h.noEmptyTable (hislipId_ne_vxi11Id id lid)] at hheld

/-- An unlock that changes the registry gives up a lock held under its session's id. -/
private theorem asyncUnlock_held (hstep : s.step (.asyncUnlock n) = some s')
    (hchange : s'.locks ≠ s.locks) : ∃ session, s.sessions n = some session ∧
      s.locks.holds session.resource session.holder = true := by
  simp only [step] at hstep
  split at hstep
  · rename_i session hn
    split at hstep
    · obtain rfl := Option.some.inj hstep
      obtain ⟨-, hsame, -⟩ | ⟨_, -, hheld, -⟩ := LockRegistry.release_cases
        (rfl : s.locks.release session.resource session.holder = (_, _))
      · exact absurd hsame hchange
      · exact ⟨session, hn, hheld⟩
    · cases hstep
  · cases hstep

/-- In every run whose asynchronous channels take and give up locks only beside a served
synchronous one, each HiSLIP id in the registry is that of a live session which took the lock
itself, and what an asynchronous channel releases is its own session's lock. -/
theorem hislip_locks_belong_to_live_sessions {maxSessions : Nat}
    (h : Reach step asyncFollowsSync { maxSessions } s) :
    (∀ resource id, s.locks.holds resource (hislipId id) = true → ∃ n session,
      s.sessions n = some session ∧ session.id = id ∧ session.live = true ∧
      s.takenBy resource (hislipId id) ≠ [] ∧ ∀ m ∈ s.takenBy resource (hislipId id), m = n) ∧
    (∀ n s', s.asyncFollowsSync (.asyncUnlock n) → s.step (.asyncUnlock n) = some s' →
      s'.locks ≠ s.locks → ∃ session, s.sessions n = some session ∧ session.live = true ∧
        ∀ m ∈ s.takenBy session.resource session.holder, m = n) := by
  obtain ⟨ht, ho⟩ : s.Tabled ∧ s.Owned := by
    refine Reach.invariant (P := fun s => s.Tabled ∧ s.Owned) h
      ⟨tabled_default maxSessions, owned_default maxSessions⟩ ?_
    rintro s a s' ⟨ht, ho⟩ hg hstep
    exact ⟨step_tabled ht hstep, step_owned ht ho hg hstep⟩
  refine ⟨ho.owner, fun n s' hg hstep hchange => ?_⟩
  obtain ⟨session, hn, hheld⟩ := asyncUnlock_held hstep hchange
  have hlive := hg session hn hheld
  obtain ⟨k, other, hk, hoid, hl, -, hall⟩ := ho.owner session.resource session.id hheld
  refine ⟨session, hn, hlive, fun m hm => ?_⟩
  rw [hall m hm]
  exact ht.live_unique hk hl hn hlive hoid

/-- One session that binds both channels and locks the instrument is the owner of the lock. -/
theorem locking_session_owns_its_lock : ∃ s, Reach step asyncFollowsSync { maxSessions := 8 } s ∧
    s.locks.holds "gpib5" (hislipId 0) = true ∧ ∃ n session, s.sessions n = some session ∧
      session.id = 0 ∧ session.live = true := by
  have hrun : Reach step asyncFollowsSync { maxSessions := 8 } _ :=
    (((Reach.refl.tail (a := .initSync "gpib5") trivial rfl).tail
      (a := .initializeResponse 0 true) nofun rfl).tail
      (a := .initAsync 0) trivial rfl).tail (a := .asyncLock 0 "" false)
      (fun session hn _ => by obtain rfl := Option.some.inj hn; rfl) rfl
  obtain ⟨n, session, hn, hid, hlive, -⟩ :=
    (hislip_locks_belong_to_live_sessions hrun).1 "gpib5" 0 (by decide)
  exact ⟨_, hrun, by decide, n, session, hn, hid, hlive⟩

/-- A request that waits when its session's synchronous channel ends is granted all the same once
the instrument is free, and nobody is left to release it. -/
theorem pending_request_outlives_its_session : ∃ s, Reach step anyStep { maxSessions := 8 } s ∧
    s.locks.holds "gpib5" (hislipId 2) = true ∧ s.takenBy "gpib5" (hislipId 2) = [1] ∧
    s.sessions 1 = some ⟨2, "gpib5", .ended, .serving⟩ ∧ s.entries[(2 : UInt16)]? = none ∧
    s.removals = [] := by
  obtain ⟨s, hreach, htest⟩ := exists_reach_of_exec step { maxSessions := 8 }
    (fun s => s.locks.holds "gpib5" (hislipId 2) && s.takenBy "gpib5" (hislipId 2) == [1] &&
      s.sessions 1 == some ⟨2, "gpib5", .ended, .serving⟩ && s.entries[(2 : UInt16)]? == none &&
      s.removals == [])
    [.initSync "gpib5", .initializeResponse 0 true, .initAsync 0, .asyncLock 0 "" false,
      .initSync "gpib5", .initializeResponse 1 true, .initAsync 2, .asyncLock 1 "" false,
      .syncEnd 1, .remove 2, .asyncUnlock 0, .asyncLockRetry 1 false] (by decide +kernel)
  simp only [Bool.and_eq_true, beq_iff_eq] at htest
  obtain ⟨⟨⟨⟨hheld, htaken⟩, hended⟩, hentry⟩, hremovals⟩ := htest
  exact ⟨s, hreach, hheld, htaken, hended, hentry, hremovals⟩

end Server
end Ugpibd.Hislip
