import Ugpibd.Hislip.SessionTable

/-! What the session table has room for. An entry is made before the client is answered and its
clean-up is arranged after: in between a connection that fails leaves the entry to nobody. -/
namespace Ugpibd.Hislip
open Library

/-- The search for an id keeps to even ones. -/
theorem freeId_even {entries : Std.ExtTreeMap UInt16 Nat} {id free : UInt16} {passes : Nat}
    (h : freeId entries id passes = some free) (hid : id.toNat % 2 = 0) : free.toNat % 2 = 0 := by
  induction passes generalizing id with
  | zero => cases h
  | succ passes ih =>
    unfold freeId at h
    split at h
    · split at h
      · cases h
      · refine ih h ?_
        change (id.toNat + 2) % 65536 % 2 = 0
        omega
    · obtain rfl := Option.some.inj h
      exact hid

namespace Server
variable {s t u : Server} {a : Action} {n m : Nat} {session other : Session} {id : UInt16}

/-- Registration, if it comes to it. -/
theorem initSync_opened {resource : String} (h : s.step (.initSync resource) = some t)
    (hne : t ≠ s) : ∃ id, s.entries.size < s.maxSessions ∧ id ∉ s.entries ∧ id.toNat % 2 = 0 ∧
      t = { s.put s.created { id, resource } with
        entries := s.entries.insert id s.created, created := s.created + 1 } := by
  simp only [step] at h
  split at h
  · exact absurd (Option.some.inj h).symm hne
  · rename_i hsize
    split at h
    · exact absurd (Option.some.inj h).symm hne
    · rename_i id hid
      exact ⟨id, Nat.lt_of_not_le hsize, freeId_not_mem hid, freeId_even hid rfl,
        (Option.some.inj h).symm⟩

/-- What holds of the table by the way ids are given out. -/
structure Bounded (s : Server) : Prop where
  within : s.entries.size ≤ s.maxSessions
  even : ∀ id ∈ s.entries, id.toNat % 2 = 0
  entered : ∀ id n, s.entries[id]? = some n → ∃ session, s.sessions n = some session ∧
    session.id = id

/-- Every entry belongs to a session that is served or whose removal is pending. -/
def Accounted (s : Server) : Prop :=
  ∀ id n, s.entries[id]? = some n → ∃ session, s.sessions n = some session ∧ session.id = id ∧
    (session.live = true ∨ id ∈ s.removals)

/-- The entry of a session that has ended without a removal. -/
structure Orphaned (s : Server) (id : UInt16) (n : Nat) : Prop where
  entry : s.entries[id]? = some n
  ended : ∃ session, s.sessions n = some session ∧ session.live = false
  pending : id ∉ s.removals

/-- A session that is registered gets an id that none has that is served or waits for removal. -/
def GivesFreeIds (s : Server) : Prop :=
  ∀ resource t n session, s.step (.initSync resource) = some t → s.sessions n = none →
    t.sessions n = some session → session.id ∉ s.removals ∧
      ∀ m other, s.sessions m = some other → other.live = true → other.id ≠ session.id

/-- From the end of a session until its removal has run, its id is its own, and the removal takes this
entry and no other. -/
def RemovesOwn (s : Server) : Prop :=
  ∀ n session t u, s.sessions n = some session → s.step (.syncEnd n) = some t →
    Reach step (fun _ a => a ≠ .remove session.id) t u →
    u.entries[session.id]? = some n ∧
      ∃ v, u.step (.remove session.id) = some v ∧ v.entries = u.entries.erase session.id

/-- The steps in which the answer to a new session can be written. -/
def answersWritten (_ : Server) (a : Action) : Prop := ∀ n, a ≠ .initializeResponse n false

private theorem put_bounded (h : s.Bounded) {moved : Session} (hn : s.sessions n = some session)
    (hid : moved.id = session.id) : (s.put n moved).Bounded where
  within := h.within
  even := h.even
  entered := by
    intro id m hm
    obtain ⟨found, hfound, rfl⟩ := h.entered id m hm
    rw [put_sessions]
    split
    · rename_i heq
      obtain rfl := Option.some.inj ((heq ▸ hfound).symm.trans hn)
      exact ⟨moved, rfl, hid⟩
    · exact ⟨found, hfound, rfl⟩

private theorem relock_bounded (h : s.Bounded) (locks : Frontend.LockRegistry)
    (granted : Option (Nat × String × Frontend.HolderId)) : (s.relock locks granted).Bounded :=
  ⟨h.within, h.even, h.entered⟩

private theorem opened_bounded (h : s.Bounded) {resource : String}
    (hsize : s.entries.size < s.maxSessions) (heven : id.toNat % 2 = 0)
    (hfresh : s.sessions s.created = none) :
    Bounded { s.put s.created { id, resource } with
      entries := s.entries.insert id s.created, created := s.created + 1 } where
  within := Std.ExtTreeMap.size_insert_le.trans hsize
  even := by
    intro id' hid'
    rcases Std.ExtTreeMap.mem_insert.mp hid' with heq | hmem
    · rwa [← Std.LawfulEqCmp.compare_eq_iff_eq.mp heq]
    · exact h.even id' hmem
  entered := by
    intro id' m hm
    change (s.entries.insert id s.created)[id']? = some m at hm
    change ∃ found, (s.put _ _).sessions m = some found ∧ _
    rw [Std.ExtTreeMap.getElem?_insert] at hm
    rw [put_sessions]
    split at hm
    · rename_i heq
      obtain rfl := Std.LawfulEqCmp.compare_eq_iff_eq.mp heq
      obtain rfl := Option.some.inj hm
      rw [if_pos rfl]
      exact ⟨_, rfl, rfl⟩
    · obtain ⟨found, hfound, rfl⟩ := h.entered id' m hm
      rw [if_neg]
      · exact ⟨found, hfound, rfl⟩
      · rintro rfl
        rw [hfresh] at hfound
        cases hfound

/-- Every step keeps the bound. -/
theorem step_bounded (h : s.Bounded) (htab : s.Tabled) (hstep : s.step a = some t) : t.Bounded := by
  cases step_effect hstep with
  | unchanged => exact h
  | opened resource id hfree =>
    have hne : { s.put s.created { id, resource } with
        entries := s.entries.insert id s.created, created := s.created + 1 } ≠ s := by
      intro heq
      have := congrArg Server.created heq
      simp at this
    obtain ⟨id', hsize, -, heven, heq⟩ := initSync_opened hstep hne
    rw [heq]
    exact opened_bounded h hsize heven (htab.fresh _ (Nat.le_refl _))
  | answered n session written hn hsync => exact put_bounded h hn rfl
  | moved n session async hn => exact put_bounded h hn rfl
  | granted n session lockString response locks hn =>
    exact put_bounded (relock_bounded h _ _) hn rfl
  | refused n session lockString locks async hn =>
    exact put_bounded (relock_bounded h _ _) hn rfl
  | unlocked n session hn => exact relock_bounded h _ _
  | ended n session hn hsync =>
    have hput : ((s.relock (s.locks.releaseAll session.holder) none).put n
        { session with sync := .ended }).Bounded := put_bounded (relock_bounded h _ _) hn rfl
    exact ⟨hput.within, hput.even, hput.entered⟩
  | removed id hid =>
    refine ⟨Std.ExtTreeMap.size_erase_le.trans h.within, fun id' hid' => ?_, fun id' m hm => ?_⟩
    · exact h.even id' (Std.ExtTreeMap.mem_of_mem_erase hid')
    · change (s.entries.erase id)[id']? = some m at hm
      rw [Std.ExtTreeMap.getElem?_erase] at hm
      split at hm
      · cases hm
      · exact h.entered id' m hm
  | link lid call => exact relock_bounded h _ _

/-- An entry stays until its removal runs. -/
theorem entry_step (hstep : s.step a = some t) (he : s.entries[id]? = some n)
    (hremove : a ≠ .remove id) : t.entries[id]? = some n := by
  cases step_effect hstep with
  | opened resource free hfree =>
    change (s.entries.insert free s.created)[id]? = some n
    rw [Std.ExtTreeMap.getElem?_insert, if_neg, he]
    rw [Std.LawfulEqCmp.compare_eq_iff_eq]
    rintro rfl
    exact hfree (Std.ExtTreeMap.mem_iff_isSome_getElem?.mpr (by simp [he]))
  | removed other hother =>
    change (s.entries.erase other)[id]? = some n
    rw [Std.ExtTreeMap.getElem?_erase, if_neg, he]
    rw [Std.LawfulEqCmp.compare_eq_iff_eq]
    rintro rfl
    exact hremove rfl
  | _ => exact he

/-- So does a pending removal. -/
theorem removal_step (hstep : s.step a = some t) (hid : id ∈ s.removals)
    (hremove : a ≠ .remove id) : id ∈ t.removals := by
  cases step_effect hstep with
  | ended n session hn hsync => exact List.mem_cons_of_mem _ hid
  | removed other hother =>
    refine (List.mem_erase_of_ne ?_).mpr hid
    rintro rfl
    exact hremove rfl
  | _ => exact hid

/-- A removal is arranged only when a session that is served ends. -/
theorem removal_new (hstep : s.step a = some t) (hid : id ∈ t.removals) :
    id ∈ s.removals ∨ ∃ n session, s.sessions n = some session ∧ session.live = true ∧
      session.id = id := by
  cases step_effect hstep with
  | ended n session hn hsync =>
    rcases List.mem_cons.mp hid with rfl | hid
    · exact .inr ⟨n, session, hn, by simp [Session.live, hsync], rfl⟩
    · exact .inl hid
  | removed other hother => exact .inl (List.mem_of_mem_erase hid)
  | _ => exact .inl hid

/-- A session whose synchronous channel has ended stays so. -/
theorem ended_step (htab : s.Tabled) (hstep : s.step a = some t)
    (hn : ∃ session, s.sessions n = some session ∧ session.live = false) :
    ∃ session, t.sessions n = some session ∧ session.live = false := by
  obtain ⟨session, hn, hlive⟩ := hn
  have hput : ∀ (r : Server) m found (moved : Session), r.sessions = s.sessions →
      s.sessions m = some found → (moved.live = true → found.live = true) →
      ∃ session, (r.put m moved).sessions n = some session ∧ session.live = false := by
    intro r m found moved hr hfound hmoved
    rw [put_sessions, hr]
    split
    · rename_i heq
      subst heq
      obtain rfl := Option.some.inj (hn.symm.trans hfound)
      exact ⟨moved, rfl, by simpa [hlive] using hmoved⟩
    · exact ⟨session, hn, hlive⟩
  cases step_effect hstep with
  | opened resource free hfree =>
    change ∃ session, (s.put _ _).sessions n = some session ∧ _
    rw [put_sessions, if_neg]
    · exact ⟨session, hn, hlive⟩
    · rintro rfl
      rw [htab.fresh _ (Nat.le_refl _)] at hn
      cases hn
  | answered m found written hfound hsync =>
    exact hput s m found _ rfl hfound fun _ => by simp [Session.live, hsync]
  | moved m found async hfound => exact hput s m found _ rfl hfound fun h => h
  | granted m found lockString response locks hfound =>
    exact hput (s.relock _ _) m found _ rfl hfound fun h => h
  | refused m found lockString locks async hfound =>
    exact hput (s.relock _ _) m found _ rfl hfound fun h => h
  | ended m found hfound hsync =>
    exact hput (s.relock _ _) m found _ rfl hfound fun h => by cases h
  | _ => exact ⟨session, hn, hlive⟩

theorem Orphaned.not_accounted (h : s.Orphaned id n) : ¬s.Accounted := by
  intro haccounted
  obtain ⟨session, hsession, -, hserved⟩ := haccounted id n h.entry
  obtain ⟨ended, hended, hdead⟩ := h.ended
  obtain rfl := Option.some.inj (hsession.symm.trans hended)
  rcases hserved with hlive | hpending
  · rw [hlive] at hdead
    cases hdead
  · exact h.pending hpending

/-- An orphaned entry is never removed. -/
theorem step_orphaned (htab : s.Tabled) (h : s.Orphaned id n) (hstep : s.step a = some t) :
    t.Orphaned id n := by
  have hremove : a ≠ .remove id := by
    rintro rfl
    simp only [step, if_neg h.pending] at hstep
    cases hstep
  refine ⟨entry_step hstep h.entry hremove, ended_step htab hstep h.ended, fun hid => ?_⟩
  rcases removal_new hstep hid with hold | ⟨m, session, hm, hlive, rfl⟩
  · exact h.pending hold
  · obtain rfl := Option.some.inj (h.entry.symm.trans (htab.live_entry m session hm hlive))
    obtain ⟨ended, hended, hdead⟩ := h.ended
    obtain rfl := Option.some.inj (hm.symm.trans hended)
    rw [hlive] at hdead
    cases hdead

/-- A session that could not be answered leaves its entry behind. -/
theorem orphaned_of_unanswered (htab : s.Tabled) (hn : s.sessions n = some session)
    (hstep : s.step (.initializeResponse n false) = some t) : t.Orphaned session.id n := by
  simp only [step, hn] at hstep
  split at hstep
  · rename_i hsync
    obtain rfl := Option.some.inj hstep
    have hlive : session.live = true := by simp [Session.live, hsync]
    have hentry := htab.live_entry n session hn hlive
    refine ⟨hentry, ⟨_, put_self n _, rfl⟩, fun hid => ?_⟩
    obtain ⟨m, other, he, hm, hdead⟩ := htab.removal_ended _ hid
    obtain rfl := Option.some.inj (hentry.symm.trans he)
    obtain rfl := Option.some.inj (hn.symm.trans hm)
    rw [hlive] at hdead
    cases hdead
  · cases hstep

private theorem put_accounted (h : s.Accounted) {moved : Session}
    (hn : s.sessions n = some session) (hid : moved.id = session.id)
    (hlive : session.live = true → moved.live = true) : (s.put n moved).Accounted := by
  intro id m hm
  obtain ⟨found, hfound, hfid, hserved⟩ := h id m hm
  rw [put_sessions]
  split
  · rename_i heq
    obtain rfl := Option.some.inj ((heq ▸ hfound).symm.trans hn)
    exact ⟨moved, rfl, hid.trans hfid, hserved.imp_left hlive⟩
  · exact ⟨found, hfound, hfid, hserved⟩

private theorem ended_accounted (h : s.Accounted) (hn : s.sessions n = some session)
    (locks : Frontend.LockRegistry) :
    Accounted { (s.relock locks none).put n { session with sync := .ended } with
      removals := session.id :: s.removals } := by
  intro id m hm
  obtain ⟨found, hfound, rfl, hserved⟩ := h id m hm
  change ∃ found', ((s.relock locks none).put _ _).sessions m = some found' ∧ _
  rw [put_sessions]
  split
  · rename_i heq
    obtain rfl := Option.some.inj ((heq ▸ hfound).symm.trans hn)
    exact ⟨_, rfl, rfl, .inr List.mem_cons_self⟩
  · exact ⟨found, hfound, rfl, hserved.imp_right (List.mem_cons_of_mem _)⟩

/-- Every step keeps the entries accounted for if answers can be written. -/
theorem step_accounted (hbound : t.Bounded) (h : s.Accounted)
    (hguard : answersWritten s a) (hstep : s.step a = some t) : t.Accounted := by
  cases step_effect hstep with
  | unchanged => exact h
  | opened resource id hfree =>
    intro id' m hm
    obtain ⟨session, hsession, hid⟩ := hbound.entered id' m hm
    refine ⟨session, hsession, hid, ?_⟩
    change (s.entries.insert id s.created)[id']? = some m at hm
    change (s.put _ _).sessions m = some session at hsession
    rw [Std.ExtTreeMap.getElem?_insert] at hm
    rw [put_sessions] at hsession
    split at hsession
    · obtain rfl := Option.some.inj hsession
      exact .inl rfl
    · rename_i hne
      split at hm
      · exact absurd (Option.some.inj hm).symm hne
      · obtain ⟨found, hfound, -, hserved⟩ := h id' m hm
        obtain rfl := Option.some.inj (hfound.symm.trans hsession)
        exact hserved
  | answered n session written hn hsync =>
    cases written with
    | true => exact put_accounted h hn rfl fun _ => rfl
    | false => exact absurd rfl (hguard n)
  | moved n session async hn => exact put_accounted h hn rfl fun hl => hl
  | granted n session lockString response locks hn =>
    exact put_accounted (s := s.relock _ _) h hn rfl fun hl => hl
  | refused n session lockString locks async hn =>
    exact put_accounted (s := s.relock _ _) h hn rfl fun hl => hl
  | unlocked n session hn => exact h
  | ended n session hn hsync => exact ended_accounted h hn _
  | removed id hid =>
    intro id' m hm
    change (s.entries.erase id)[id']? = some m at hm
    rw [Std.ExtTreeMap.getElem?_erase] at hm
    split at hm
    · cases hm
    · rename_i hne
      obtain ⟨found, hfound, hfid, hserved⟩ := h id' m hm
      refine ⟨found, hfound, hfid, hserved.imp_right fun hmem => ?_⟩
      refine (List.mem_erase_of_ne ?_).mpr hmem
      rintro rfl
      exact hne (Std.LawfulEqCmp.compare_eq_iff_eq.mpr rfl)
  | link lid call => exact h

theorem step_maxSessions (hstep : s.step a = some t) : t.maxSessions = s.maxSessions := by
  cases step_effect hstep <;> rfl

theorem givesFreeIds (htab : s.Tabled) : s.GivesFreeIds := by
  intro resource t n session hstep hn hsession
  have hne : t ≠ s := by
    rintro rfl
    rw [hn] at hsession
    cases hsession
  obtain ⟨id, -, hfree, -, rfl⟩ := initSync_opened hstep hne
  change (s.put _ _).sessions n = some session at hsession
  rw [put_sessions, hn] at hsession
  split at hsession
  · obtain rfl := Option.some.inj hsession
    refine ⟨fun hid => ?_, fun m other hm hlive heq => ?_⟩
    · obtain ⟨m, -, he, -, -⟩ := htab.removal_ended _ hid
      exact hfree (Std.ExtTreeMap.mem_iff_isSome_getElem?.mpr (by simp [he]))
    · have he := htab.live_entry m other hm hlive
      rw [heq] at he
      exact hfree (Std.ExtTreeMap.mem_iff_isSome_getElem?.mpr (by simp [he]))
  · cases hsession

theorem removesOwn (htab : s.Tabled) : s.RemovesOwn := by
  intro n session t u hn hstep hreach
  have hkept : u.entries[session.id]? = some n ∧ session.id ∈ u.removals := by
    refine hreach.invariant (P := fun u => u.entries[session.id]? = some n ∧
      session.id ∈ u.removals) ?_ fun r a r' h hguard hr => ?_
    · simp only [step, hn] at hstep
      split at hstep
      · rename_i hsync
        obtain rfl := Option.some.inj hstep
        exact ⟨htab.live_entry n session hn (by simp [Session.live, hsync]), List.mem_cons_self⟩
      · cases hstep
    · exact ⟨entry_step hr h.1 hguard, removal_step hr h.2 hguard⟩
  refine ⟨hkept.1, _, if_pos hkept.2, rfl⟩

theorem bounded_default (maxSessions : Nat) : Bounded { maxSessions } where
  within := Nat.zero_le _
  even := by
    intro id hid
    exact absurd hid Std.ExtTreeMap.not_mem_empty
  entered := by
    intro id n hn
    exact absurd hn (by simp)

/-- What every step keeps, whatever fails. -/
theorem reach_table {maxSessions : Nat} (h : Reach step anyStep { maxSessions } s) :
    s.Tabled ∧ s.Bounded ∧ s.maxSessions = maxSessions := by
  refine h.invariant (P := fun s => s.Tabled ∧ s.Bounded ∧ s.maxSessions = maxSessions)
    ⟨tabled_default maxSessions, bounded_default maxSessions, rfl⟩ ?_
  rintro r a r' ⟨htab, hbound, hmax⟩ - hr
  exact ⟨step_tabled htab hr, step_bounded hbound htab hr, (step_maxSessions hr).trans hmax⟩

/-- However connections open, fail and close, the table is within its limit, its ids are even and
given out free, and a removal takes its own session's entry. Every entry is accounted for as long as
each new session can be answered; the entry of one that cannot is there for good. -/
theorem session_table_accounts (maxSessions : Nat) :
    (∀ s, Reach step anyStep { maxSessions } s →
      s.entries.size ≤ maxSessions ∧ (∀ id ∈ s.entries, id.toNat % 2 = 0) ∧ s.GivesFreeIds ∧
      s.RemovesOwn ∧
      ∀ n session t u, s.sessions n = some session →
        s.step (.initializeResponse n false) = some t → Reach step anyStep t u →
        u.Orphaned session.id n ∧ ¬u.Accounted) ∧
    ∀ s, Reach step answersWritten { maxSessions } s → s.Accounted := by
  refine ⟨fun s h => ?_, fun s h => ?_⟩
  · obtain ⟨htab, hbound, rfl⟩ := reach_table h
    refine ⟨hbound.within, hbound.even, givesFreeIds htab, removesOwn htab, ?_⟩
    intro n session t u hn hstep hreach
    have horphan : u.Tabled ∧ u.Orphaned session.id n :=
      hreach.invariant (P := fun u => u.Tabled ∧ u.Orphaned session.id n)
        ⟨step_tabled htab hstep, orphaned_of_unanswered htab hn hstep⟩
        fun r a r' hr _ hr' => ⟨step_tabled hr.1 hr', step_orphaned hr.1 hr.2 hr'⟩
    exact ⟨horphan.2, horphan.2.not_accounted⟩
  · refine (h.invariant (P := fun s => s.Tabled ∧ s.Bounded ∧ s.Accounted)
      ⟨tabled_default maxSessions, bounded_default maxSessions,
        fun id n hn => absurd hn (by simp)⟩ ?_).2.2
    rintro r a r' ⟨htab, hbound, haccounted⟩ hguard hr
    have hbound' := step_bounded hbound htab hr
    exact ⟨step_tabled htab hr, hbound', step_accounted hbound' haccounted hguard hr⟩

/-- With room for one session, a client that is gone before it is answered takes it for good. -/
theorem unanswered_session_fills_table :
    ∃ s, Reach step anyStep { maxSessions := 1 } s ∧ s.maxSessions ≤ s.entries.size ∧
      s.Orphaned 0 0 ∧ ¬s.Accounted := by
  obtain ⟨s, hreach, htest⟩ := exists_reach_of_exec step { maxSessions := 1 }
    (fun s => decide (s.maxSessions ≤ s.entries.size) && s.entries[(0 : UInt16)]? == some 0 &&
      s.removals.isEmpty && (s.sessions 0).any fun session => !session.live)
    [.initSync "gpib0", .initializeResponse 0 false] (by decide +kernel)
  simp only [Bool.and_eq_true, decide_eq_true_eq, beq_iff_eq, List.isEmpty_iff,
    Option.any_eq_true, Bool.not_eq_true'] at htest
  obtain ⟨⟨⟨hfull, hentry⟩, hremovals⟩, hended⟩ := htest
  have horphan : s.Orphaned 0 0 := ⟨hentry, hended, by simp [hremovals]⟩
  exact ⟨s, hreach, hfull, horphan, horphan.not_accounted⟩

end Server
end Ugpibd.Hislip
