import Ugpibd.Hislip.Sessions

/-! What a step of the server can do, and what the session table keeps through all of them:
ids stay apart, and an entry is removed only after its session has ended. -/
namespace Ugpibd.Hislip
open Frontend Library

theorem freeId_not_mem {entries : Std.ExtTreeMap UInt16 Nat} {id free : UInt16} {passes : Nat}
    (h : freeId entries id passes = some free) : free ∉ entries := by
  induction passes generalizing id with
  | zero => cases h
  | succ passes ih =>
    unfold freeId at h
    split at h
    · split at h
      · cases h
      · exact ih h
    · rename_i hc
      obtain rfl := Option.some.inj h
      simpa using hc

namespace Server
variable {s s' : Server} {a : Action} {n : Nat} {session : Session}

@[simp] theorem put_self (n : Nat) (session : Session) :
    (s.put n session).sessions n = some session :=
  Function.update_self ..

theorem put_sessions (n m : Nat) (session : Session) :
    (s.put n session).sessions m = if m = n then some session else s.sessions m :=
  Function.update_apply ..

@[simp] theorem relock_locks (locks : LockRegistry) (granted : Option (Nat × String × HolderId)) :
    (s.relock locks granted).locks = locks := rfl

theorem relock_takenBy (locks : LockRegistry) (granted : Option (Nat × String × HolderId)) :
    (s.relock locks granted).takenBy = s.takenBy.update locks granted := rfl

/-- The steps in which the asynchronous channel takes and gives up locks only while the
synchronous one is served, and no session that holds a lock fails to be answered. -/
def asyncFollowsSync (s : Server) : Action → Prop
  | .asyncLock n lockString _ => ∀ session, s.sessions n = some session →
      (s.locks.tryRequest session.resource session.holder lockString).1.isSome = true →
      session.live = true
  | .asyncLockRetry n _ => ∀ session lockString snapshot, s.sessions n = some session →
      session.async = .waiting lockString snapshot →
      (s.locks.tryRequest session.resource session.holder lockString).1.isSome = true →
      session.live = true
  | .asyncUnlock n => ∀ session, s.sessions n = some session →
      s.locks.holds session.resource session.holder = true → session.live = true
  | .initializeResponse n written => written = false → ∀ session, s.sessions n = some session →
      ∀ resource, s.locks.holds resource session.holder = false
  | _ => True

/-- Everything a step can do. -/
inductive Effect (s : Server) : Action → Server → Prop
  | unchanged {a : Action} : Effect s a s
  | opened (resource : String) (id : UInt16) : id ∉ s.entries →
      Effect s (.initSync resource) { s.put s.created { id, resource } with
        entries := s.entries.insert id s.created, created := s.created + 1 }
  | answered (n : Nat) (session : Session) (written : Bool) : s.sessions n = some session →
      session.sync = .opening → Effect s (.initializeResponse n written)
        (s.put n { session with sync := if written then .serving else .ended })
  | moved {a : Action} (n : Nat) (session : Session) (async : AsyncPhase) :
      s.sessions n = some session → Effect s a (s.put n { session with async })
  | granted {a : Action} (n : Nat) (session : Session) (lockString : String)
      (response : LockResponse) (locks : LockRegistry) : s.sessions n = some session →
      s.locks.tryRequest session.resource session.holder lockString = (some response, locks) →
      (s.asyncFollowsSync a → session.live = true) →
      Effect s a ((s.relock locks (some (n, session.resource, session.holder))).put n
        { session with async := .serving })
  | refused {a : Action} (n : Nat) (session : Session) (lockString : String)
      (locks : LockRegistry) (async : AsyncPhase) : s.sessions n = some session →
      s.locks.tryRequest session.resource session.holder lockString = (none, locks) →
      Effect s a ((s.relock locks none).put n { session with async })
  | unlocked (n : Nat) (session : Session) : s.sessions n = some session →
      Effect s (.asyncUnlock n) (s.relock (s.locks.release session.resource session.holder).2 none)
  | ended (n : Nat) (session : Session) : s.sessions n = some session → session.sync = .serving →
      Effect s (.syncEnd n) { (s.relock (s.locks.releaseAll session.holder) none).put n
        { session with sync := .ended } with removals := session.id :: s.removals }
  | removed (id : UInt16) : id ∈ s.removals → Effect s (.remove id)
      { s with entries := s.entries.erase id, removals := s.removals.erase id }
  | link (lid : Int32) (call : LockCall) : Effect s (.link lid call)
      (s.relock (s.locks.apply (call.madeBy (vxi11Id lid))).2 none)

private theorem tryLock_effect {lockString : String} (expired : Bool)
    (hn : s.sessions n = some session) (hlive : s.asyncFollowsSync a →
      (s.locks.tryRequest session.resource session.holder lockString).1.isSome = true →
      session.live = true) :
    Effect s a (s.tryLock n session lockString expired) := by
  unfold tryLock
  split
  · rename_i response locks hr
    exact .granted n session lockString response locks hn hr fun hg => hlive hg (by simp [hr])
  · rename_i locks hr
    exact .refused n session lockString locks _ hn hr

/-- Every step is one of the listed effects. -/
theorem step_effect (h : s.step a = some s') : Effect s a s' := by
  cases a with
  | initSync resource =>
    simp only [step] at h
    split at h
    · obtain rfl := Option.some.inj h
      exact .unchanged
    · split at h
      · obtain rfl := Option.some.inj h
        exact .unchanged
      · rename_i id hid
        obtain rfl := Option.some.inj h
        exact .opened resource id (freeId_not_mem hid)
  | initializeResponse n written =>
    simp only [step] at h
    split at h
    · rename_i session hn
      split at h
      · obtain rfl := Option.some.inj h
        exact .answered n session written hn ‹_›
      · cases h
    · cases h
  | initAsync id =>
    simp only [step] at h
    split at h
    · rename_i n session hb
      obtain ⟨m, -, hm⟩ := Option.bind_eq_some_iff.mp hb
      obtain ⟨found, hfound, heq⟩ := Option.map_eq_some_iff.mp hm
      obtain ⟨rfl, rfl⟩ := Prod.mk.inj heq
      split at h
      · obtain rfl := Option.some.inj h
        exact .moved m found .serving hfound
      · obtain rfl := Option.some.inj h
        exact .unchanged
    · obtain rfl := Option.some.inj h
      exact .unchanged
  | asyncLock n lockString expired =>
    simp only [step] at h
    split at h
    · rename_i session hn
      split at h
      · obtain rfl := Option.some.inj h
        exact tryLock_effect expired hn fun hg => hg session hn
      · cases h
    · cases h
  | asyncLockRetry n expired =>
    simp only [step] at h
    split at h
    · rename_i session hn
      split at h
      · rename_i lockString snapshot hw
        split at h
        · obtain rfl := Option.some.inj h
          exact tryLock_effect expired hn fun hg => hg session lockString snapshot hn hw
        · cases h
      · cases h
    · cases h
  | asyncUnlock n =>
    simp only [step] at h
    split at h
    · rename_i session hn
      split at h
      · obtain rfl := Option.some.inj h
        exact .unlocked n session hn
      · cases h
    · cases h
  | asyncEnd n =>
    simp only [step] at h
    split at h
    · rename_i session hn
      split at h
      · obtain rfl := Option.some.inj h
        exact .moved n session .ended hn
      · cases h
    · cases h
  | syncEnd n =>
    simp only [step] at h
    split at h
    · rename_i session hn
      split at h
      · obtain rfl := Option.some.inj h
        exact .ended n session hn ‹_›
      · cases h
    · cases h
  | remove id =>
    simp only [step] at h
    split at h
    · obtain rfl := Option.some.inj h
      exact .removed id ‹_›
    · cases h
  | link lid call =>
    obtain rfl := Option.some.inj h
    exact .link lid call

/-- What the session table keeps by itself: a live session is the entry of its id, and a pending
removal is for an entry whose session has ended. -/
structure Tabled (s : Server) : Prop where
  fresh : ∀ n, s.created ≤ n → s.sessions n = none
  live_entry : ∀ n session, s.sessions n = some session → session.live = true →
    s.entries[session.id]? = some n
  removals_nodup : s.removals.Nodup
  removal_ended : ∀ id ∈ s.removals, ∃ n session, s.entries[id]? = some n ∧
    s.sessions n = some session ∧ session.live = false

/-- Two live sessions never have one id. -/
theorem Tabled.live_unique (h : s.Tabled) {m : Nat} {other : Session}
    (hn : s.sessions n = some session) (hlive : session.live = true)
    (hm : s.sessions m = some other) (hlive' : other.live = true) (hid : session.id = other.id) :
    n = m := by
  have he := h.live_entry n session hn hlive
  rw [hid, h.live_entry m other hm hlive'] at he
  exact (Option.some.inj he).symm

/-- Moving a session along without reviving it or changing its id keeps the table. -/
private theorem put_tabled (h : s.Tabled) {moved : Session} (hn : s.sessions n = some session)
    (hid : moved.id = session.id) (hlive : moved.live = true → session.live = true) :
    (s.put n moved).Tabled where
  fresh := by
    intro m hm
    rw [put_sessions, if_neg]
    · exact h.fresh m hm
    · rintro rfl
      rw [h.fresh m hm] at hn
      cases hn
  live_entry := by
    intro m other hm hl
    rw [put_sessions] at hm
    split at hm
    · rename_i hmn
      obtain rfl := Option.some.inj hm
      rw [hid, hmn]
      exact h.live_entry n session hn (hlive hl)
    · exact h.live_entry m other hm hl
  removals_nodup := h.removals_nodup
  removal_ended := by
    intro id hid'
    obtain ⟨m, other, he, hm, hl⟩ := h.removal_ended id hid'
    by_cases hmn : m = n
    · subst hmn
      obtain rfl := Option.some.inj (hn.symm.trans hm)
      exact ⟨m, moved, he, put_self m moved, by simpa [hl] using hlive⟩
    · exact ⟨m, other, he, by rw [put_sessions, if_neg hmn, hm], hl⟩

/-- The table does not look at the locks. -/
private theorem relock_tabled (h : s.Tabled) (locks : LockRegistry)
    (granted : Option (Nat × String × HolderId)) : (s.relock locks granted).Tabled :=
  ⟨h.fresh, h.live_entry, h.removals_nodup, h.removal_ended⟩

private theorem initSync_tabled (h : s.Tabled) {id : UInt16} {resource : String}
    (hfree : id ∉ s.entries) :
    Tabled { s.put s.created { id, resource } with
      entries := s.entries.insert id s.created, created := s.created + 1 } where
  fresh := by
    intro m hm
    change (s.put _ _).sessions m = none
    rw [put_sessions, if_neg (by simp only at hm; omega)]
    exact h.fresh m (by simp only at hm; omega)
  live_entry := by
    intro m other hm hl
    change (s.put _ _).sessions m = some other at hm
    rw [put_sessions] at hm
    rw [Std.ExtTreeMap.getElem?_insert]
    split at hm
    · rename_i hmn
      obtain rfl := Option.some.inj hm
      simp [hmn]
    · have he := h.live_entry m other hm hl
      rw [if_neg, he]
      rw [Std.LawfulEqCmp.compare_eq_iff_eq]
      rintro rfl
      exact hfree (Std.ExtTreeMap.mem_iff_isSome_getElem?.mpr (by simp [he]))
  removals_nodup := h.removals_nodup
  removal_ended := by
    intro id' hid'
    obtain ⟨m, other, he, hm, hl⟩ := h.removal_ended id' hid'
    refine ⟨m, other, ?_, ?_, hl⟩
    · rw [Std.ExtTreeMap.getElem?_insert, if_neg, he]
      rw [Std.LawfulEqCmp.compare_eq_iff_eq]
      rintro rfl
      exact hfree (Std.ExtTreeMap.mem_iff_isSome_getElem?.mpr (by simp [he]))
    · change (s.put _ _).sessions m = some other
      rw [put_sessions, if_neg, hm]
      rintro rfl
      rw [h.fresh _ (Nat.le_refl _)] at hm
      cases hm

private theorem ended_tabled (h : s.Tabled) (hn : s.sessions n = some session)
    (hsync : session.sync = .serving) (locks : LockRegistry) :
    Tabled { (s.relock locks none).put n { session with sync := .ended } with
      removals := session.id :: s.removals } := by
  have hlive : session.live = true := by simp [Session.live, hsync]
  have hentry := h.live_entry n session hn hlive
  have hput : ((s.relock locks none).put n { session with sync := .ended }).Tabled :=
    put_tabled (relock_tabled h locks none) hn rfl fun _ => hlive
  refine ⟨hput.fresh, hput.live_entry, List.nodup_cons.mpr ⟨fun hmem => ?_, h.removals_nodup⟩, ?_⟩
  · obtain ⟨m, other, he, hm, hl⟩ := h.removal_ended _ hmem
    obtain rfl := Option.some.inj (hentry.symm.trans he)
    obtain rfl := Option.some.inj (hn.symm.trans hm)
    rw [hl] at hlive
    cases hlive
  · intro id hid
    rcases List.mem_cons.mp hid with rfl | hid
    · exact ⟨n, _, hentry, put_self n _, rfl⟩
    · exact hput.removal_ended id hid

private theorem removed_tabled (h : s.Tabled) {id : UInt16} (hid : id ∈ s.removals) :
    Tabled { s with entries := s.entries.erase id, removals := s.removals.erase id } where
  fresh := h.fresh
  live_entry := by
    intro m other hm hl
    have he := h.live_entry m other hm hl
    rw [Std.ExtTreeMap.getElem?_erase, if_neg, he]
    rw [Std.LawfulEqCmp.compare_eq_iff_eq]
    rintro rfl
    obtain ⟨m', other', he', hm', hl'⟩ := h.removal_ended _ hid
    obtain rfl := Option.some.inj (he.symm.trans he')
    obtain rfl := Option.some.inj (hm.symm.trans hm')
    rw [hl] at hl'
    cases hl'
  removals_nodup := h.removals_nodup.erase id
  removal_ended := by
    intro id' hid'
    obtain ⟨hne, hid'⟩ := (h.removals_nodup.mem_erase_iff).mp hid'
    obtain ⟨m, other, he, hm, hl⟩ := h.removal_ended id' hid'
    refine ⟨m, other, ?_, hm, hl⟩
    rw [Std.ExtTreeMap.getElem?_erase, if_neg, he]
    rw [Std.LawfulEqCmp.compare_eq_iff_eq]
    exact Ne.symm hne

theorem tabled_default (maxSessions : Nat) : Tabled { maxSessions } where
  fresh := fun _ _ => rfl
  live_entry := by
    intro n session hn
    cases hn
  removals_nodup := List.nodup_nil
  removal_ended := by
    intro id hid
    cases hid

/-- Every step keeps the table, whatever the locks do. -/
theorem step_tabled (h : s.Tabled) (hstep : s.step a = some s') : s'.Tabled := by
  cases step_effect hstep with
  | unchanged => exact h
  | opened resource id hfree => exact initSync_tabled h hfree
  | answered n session written hn hsync =>
    exact put_tabled h hn rfl fun _ => by simp [Session.live, hsync]
  | moved n session async hn => exact put_tabled h hn rfl fun hl => hl
  | granted n session lockString response locks hn =>
    exact put_tabled (relock_tabled h _ _) hn rfl fun hl => hl
  | refused n session lockString locks async hn =>
    exact put_tabled (relock_tabled h _ _) hn rfl fun hl => hl
  | unlocked n session hn => exact relock_tabled h _ _
  | ended n session hn hsync => exact ended_tabled h hn hsync _
  | removed id hid => exact removed_tabled h hid
  | link lid call => exact relock_tabled h _ _

end Server
end Ugpibd.Hislip
