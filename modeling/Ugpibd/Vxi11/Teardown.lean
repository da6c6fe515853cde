import Ugpibd.Vxi11.LinkLocks

/-! What a core connection leaves behind. The clean-up after its loop finds every link made on it,
also those others have locked through; an error that leaves the loop never gets there. -/
namespace Ugpibd.Vxi11
open Frontend Library

namespace Shared
variable {s s' : Shared} {a : Action} {c : Nat} {link : Link} {lid : Int32}

/-- The connection the link was made on is still served and has the id on its list. -/
def serves (s : Shared) (link : Link) (lid : Int32) : Prop :=
  (s.conns link.creator).phase ≠ .finished ∧ lid ∈ (s.conns link.creator).owned

/-- Every link that is in the table or took a lock is on its connection's list. -/
structure Listed (s : Shared) : Prop where
  tabled : ∀ (lid : Int32) (link : Link), s.links[lid]? = some link → s.serves link lid
  taken : ∀ resource (lid : Int32), ∀ link ∈ s.takenBy resource (vxi11Id lid), s.serves link lid

theorem listed_default (maxRecvSize : UInt32) (maxLinks : Nat) (abortPort : UInt16) :
    Listed { maxRecvSize, maxLinks, abortPort } where
  tabled := by intro lid link h; simp at h
  taken := by intro resource lid link h; cases h

private theorem setPhase_serves {phase : Phase} (h : s.serves link lid) (hp : phase ≠ .finished) :
    (s.setPhase c phase).serves link lid := by
  unfold serves
  rw [setPhase_phase, setPhase_owned]
  refine ⟨?_, h.2⟩
  split
  · exact hp
  · exact h.1

private theorem setPhase_listed (h : s.Listed) (c : Nat) {phase : Phase} (hp : phase ≠ .finished) :
    (s.setPhase c phase).Listed where
  tabled := fun lid link hlink => setPhase_serves (h.tabled lid link hlink) hp
  taken := fun resource lid link hlink => setPhase_serves (h.taken resource lid link hlink) hp

/-- The registry call of a step adds at most the link it grants to those who took a lock. -/
private theorem relock_listed (h : s.Listed) (locks : LockRegistry)
    {granted : Option (Link × String × HolderId)}
    (hgranted : ∀ link resource (lid : Int32), granted = some (link, resource, vxi11Id lid) →
      s.serves link lid) : (s.relock locks granted).Listed where
  tabled := h.tabled
  taken := by
    intro resource lid link hlink
    rw [relock_takenBy] at hlink
    rcases (Takers.mem_update.mp hlink).2 with hlink | hlink
    · exact h.taken resource lid link hlink
    · exact hgranted link resource lid hlink

private theorem relock_none_listed (h : s.Listed) (locks : LockRegistry) :
    (s.relock locks none).Listed :=
  relock_listed h locks fun _ _ _ hnone => nomatch hnone

private theorem insertLink_serves (h : s.serves link lid) (kind : DeviceAddr) :
    (s.insertLink c (s.newLink c kind)).serves link lid := by
  by_cases hc : link.creator = c
  · subst hc
    simpa [serves, insertLink, setConn] using ⟨h.1, .inl h.2⟩
  · simpa [serves, insertLink, setConn, Function.update_of_ne hc] using h

private theorem insertLink_listed (h : s.Listed) (kind : DeviceAddr)
    (hp : (s.conns c).phase ≠ .finished) : (s.insertLink c (s.newLink c kind)).Listed where
  tabled := by
    intro lid link hlink
    rw [insertLink_getElem?] at hlink
    split at hlink
    · rename_i hlid
      obtain rfl := Option.some.inj hlink
      subst hlid
      simpa [serves, insertLink, setConn, newLink] using hp
    · exact insertLink_serves (h.tabled lid link hlink) kind
  taken := fun resource lid link hlink => insertLink_serves (h.taken resource lid link hlink) kind

private theorem removeLink_serves {lid' : Int32} (h : s.serves link lid) (hne : lid ≠ lid') :
    (s.removeLink c lid').serves link lid := by
  by_cases hc : link.creator = c
  · subst hc
    simpa [serves, removeLink, setConn, hne] using h
  · simpa [serves, removeLink, setConn, Function.update_of_ne hc] using h

/-- A link may leave the table with a registry that holds nothing under its id. -/
private theorem removeLink_listed (h : s.Listed) (c : Nat) {locks : LockRegistry}
    (hfree : ∀ resource, locks.holds resource (vxi11Id lid) = false) :
    ((s.relock locks none).removeLink c lid).Listed where
  tabled := by
    intro lid' link hlink
    rw [removeLink_getElem?] at hlink
    split at hlink
    · cases hlink
    · rename_i hout
      exact removeLink_serves (h.tabled lid' link hlink) (mt List.mem_singleton.mpr hout)
  taken := by
    intro resource lid' link hlink
    refine removeLink_serves ((relock_none_listed h locks).taken resource lid' link hlink) ?_
    rintro rfl
    refine List.ne_nil_of_mem hlink ?_
    change (s.relock locks none).takenBy resource (vxi11Id lid') = []
    rw [relock_takenBy, Takers.update_eq_nil (hfree resource)]

/-- A connection that finishes without an id on its list does not matter to the link. -/
private theorem finish_serves (h : s.serves link lid) (hout : lid ∉ (s.conns c).owned) :
    (s.setPhase c .finished).serves link lid := by
  have hc : link.creator ≠ c := by
    rintro rfl
    exact hout h.2
  unfold serves
  rw [setPhase_phase, setPhase_owned, if_neg hc]
  exact h

/-- Breaking off is harmless to a connection with no link in the table. -/
private theorem brokeOff_listed (hl : s.Linked) (h : s.Listed)
    (hnone : ∀ lid ∈ (s.conns c).owned, s.links[lid]? = none) :
    (s.setPhase c .finished).Listed where
  tabled := by
    intro lid link hlink
    refine finish_serves (h.tabled lid link hlink) fun hmem => ?_
    exact absurd (hlink.symm.trans (hnone lid hmem)) nofun
  taken := by
    intro resource lid link hlink
    refine finish_serves (h.taken resource lid link hlink) fun hmem => ?_
    obtain ⟨⟨found, hfound⟩, -⟩ := hl.held resource lid
      (hl.taken_held resource _ (List.ne_nil_of_mem hlink))
    exact absurd (hfound.symm.trans (hnone lid hmem)) nofun

/-- The clean-up takes every link on the list out of the table, and every lock under their ids. -/
private theorem teardown_listed (hl : s.Linked) (h : s.Listed) (c : Nat) : (s.teardown c).Listed where
  tabled := by
    intro lid link hlink
    have hfound := removeAll_getElem? (s.conns c).owned s.links lid
    rw [show (removeAll (s.conns c).owned s.links).2[lid]? = some link from hlink] at hfound
    split at hfound
    · cases hfound
    · exact finish_serves (h.tabled lid link hfound.symm) ‹_›
  taken := by
    intro resource lid link hlink
    change link ∈ s.takenBy.update _ none resource (vxi11Id lid) at hlink
    obtain ⟨hheld, htaken | hnone⟩ := Takers.mem_update.mp hlink
    · refine finish_serves (h.taken resource lid link htaken) fun hmem => ?_
      obtain ⟨hwas, hothers⟩ := foldl_releaseAll_holds.mp hheld
      obtain ⟨⟨found, hfound⟩, -⟩ := hl.held resource lid hwas
      refine hothers found (mem_removeAll.mpr ⟨lid, hmem, hfound⟩) ?_
      rw [Link.holder, hl.keyed lid found hfound]
    · cases hnone

private theorem turn_listed (hl : s.Linked) (h : s.Listed) {unwinds : Bool}
    (hturn : Turn s c link unwinds s')
    (hgrants : s.grants link = true → ∃ lid : Int32, s.links[lid]? = some link)
    (hunwinds : s.grants link = false → unwinds = true →
      ∀ resource, s.locks.holds resource link.holder = false) : s'.Listed := by
  cases hturn with
  | granted response locks reply hr =>
    refine setPhase_listed (relock_listed h locks ?_) c nofun
    intro taker resource lid heq
    obtain ⟨rfl, hrest⟩ := Prod.mk.inj (Option.some.inj heq)
    obtain rfl : link.lid = lid := vxi11Id_injective (Prod.mk.inj hrest).2
    obtain ⟨lid, hlink⟩ := hgrants (by simp [grants, hr])
    rw [hl.keyed lid link hlink]
    exact h.tabled lid link hlink
  | refused locks phase hr hp => exact setPhase_listed (relock_none_listed h locks) c hp
  | unwound locks reply hr hu =>
    obtain rfl := LockRegistry.tryRequest_refused hl.noEmptyTable hr
    have hfree := hunwinds (by simp [grants, hr]) hu
    exact setPhase_listed (removeLink_listed h c hfree) c nofun

/-- One step keeps the links listed, as long as no connection breaks off with one in the table. -/
theorem step_listed (hl : s.Linked) (h : s.Listed) (hg : s.grantsStayLinked a)
    (hb : s.breaksOffUnlinked a) (hstep : s.step a = some s') : s'.Listed := by
  cases step_effect hstep with
  | unchanged => exact h
  | phased c phase hp hp' => exact setPhase_listed h c hp'
  | brokeOff c hnone => exact brokeOff_listed hl h (hnone hb)
  | created c kind reply hp => exact setPhase_listed (insertLink_listed h kind hp) c nofun
  | createdLocking c kind _ hp hreq hturn =>
    refine turn_listed (insertLink_linked hl c kind) (insertLink_listed h kind hp) hturn
      (fun _ => ⟨s.nextLid, ?_⟩) fun hno hu => hg.2 _ hreq hno hu
    exact (insertLink_getElem? _).trans (if_pos rfl)
  | locking c link _ hp hreq hlinked hturn =>
    exact turn_listed hl h hturn (fun hyes => hlinked hyes hg) fun hno hu => hg.2 _ hreq hno hu
  | destroyed c lid link hp hlink =>
    have hfree : ∀ resource,
        (s.locks.releaseAll link.holder).holds resource (vxi11Id lid) = false := by
      intro resource
      rw [← hl.keyed lid link hlink, ← Bool.not_eq_true, LockRegistry.releaseAll_holds]
      exact fun hno => hno.2 rfl
    have hremoved : ((s.removeLink c lid).relock (s.locks.releaseAll link.holder) none).Listed :=
      removeLink_listed h c hfree
    exact setPhase_listed hremoved c nofun
  | unlocked c link => exact setPhase_listed (relock_none_listed h _) c nofun
  | tornDown c => exact teardown_listed hl h c
  | session sessionId call => exact relock_none_listed h _

/-- In every run that grants waits only to links in the table, and whose connections leave their
loop by an error only with no link in it, a finished connection has no link in the table and no
link made on it has a lock. -/
theorem finished_connection_leaves_nothing {maxRecvSize : UInt32} {maxLinks : Nat}
    {abortPort : UInt16} (h : Reach step (fun s a => s.grantsStayLinked a ∧ s.breaksOffUnlinked a)
      { maxRecvSize, maxLinks, abortPort } s) (c : Nat) (hc : (s.conns c).phase = .finished) :
    (∀ (lid : Int32) (link : Link), s.links[lid]? = some link → link.creator ≠ c) ∧
    ∀ resource (lid : Int32), s.locks.holds resource (vxi11Id lid) = true →
      s.takenBy resource (vxi11Id lid) ≠ [] ∧
      ∀ link ∈ s.takenBy resource (vxi11Id lid), link.creator ≠ c := by
  obtain ⟨hl, hlisted⟩ : s.Linked ∧ s.Listed := by
    refine Reach.invariant (P := fun s => s.Linked ∧ s.Listed) h
      ⟨linked_default .., listed_default ..⟩ ?_
    rintro s a t ⟨hl, hlisted⟩ ⟨hg, hb⟩ hstep
    exact ⟨step_linked hl hg hstep, step_listed hl hlisted hg hb hstep⟩
  have hout : ∀ link lid, s.serves link lid → link.creator ≠ c := by
    rintro link lid hserves rfl
    exact hserves.1 hc
  refine ⟨fun lid link hlink => hout link lid (hlisted.tabled lid link hlink), ?_⟩
  intro resource lid hheld
  exact ⟨(hl.held resource lid hheld).2.1,
    fun link hlink => hout link lid (hlisted.taken resource lid link hlink)⟩

private theorem step_hangup {stream : Stream} (hp : (s.conns c).phase = .reading)
    (hread : readRecord s.maxRecord stream = .ok none) :
    s.step (.hangup c stream) = some (s.teardown c) := by
  simp only [step, hp, hread]

/-- A connection that creates a locked link and hangs up leaves no link of its own. -/
theorem hangup_leaves_nothing : ∃ s : Shared,
    Reach step (fun s a => s.grantsStayLinked a ∧ s.breaksOffUnlinked a) {} s ∧
    (s.conns 0).phase = .finished ∧ (∀ link ∈ s.destroyed, link.creator = 0) ∧
    s.destroyed ≠ [] ∧ ∀ (lid : Int32) (link : Link), s.links[lid]? = some link →
      link.creator ≠ 0 := by
  have hidle : ∀ (s : Shared) a, s.requests a = none → (∀ c expired, a ≠ .lockRetry c expired) →
      s.grantsStayLinked a := fun s a hreq hne =>
    ⟨fun c expired _ h => absurd h (hne c expired), fun link h => by rw [hreq] at h; cases h⟩
  have hrun : Reach step (fun s a => s.grantsStayLinked a ∧ s.breaksOffUnlinked a) {} _ :=
    ((Reach.refl.tail ⟨grantsStayLinked_first_createLink, trivial⟩ rfl).tail (a := .replied 0 true)
      ⟨hidle _ _ rfl nofun, nofun⟩ rfl).tail (a := .hangup 0 ⟨[], .eof⟩)
      ⟨hidle _ _ rfl nofun, fun hne => absurd (readRecord_eof (by decide) rfl) hne⟩
      (step_hangup rfl (readRecord_eof (by decide) rfl))
  exact ⟨_, hrun, rfl, by decide +kernel, by decide +kernel,
    (finished_connection_leaves_nothing hrun 0 rfl).1⟩

/-- A record cut short ends the connection from inside its loop: the link stays in the table and
keeps its lock. -/
theorem record_cut_short_leaks_link : ∃ s, Reach step anyStep {} s ∧
    (s.conns 0).phase = .finished ∧ s.links[(1 : Int32)]? = some ⟨1, .pad 5, 0, 0⟩ ∧
    s.locks.holds "gpib5" (vxi11Id 1) = true ∧
    s.takenBy "gpib5" (vxi11Id 1) = [⟨1, .pad 5, 0, 0⟩] := by
  obtain ⟨s, hreach, htest⟩ := exists_reach_of_exec step {}
    (fun s => (s.conns 0).phase == .finished &&
      s.links[(1 : Int32)]? == some ⟨1, .pad 5, 0, 0⟩ && s.locks.holds "gpib5" (vxi11Id 1) &&
      s.takenBy "gpib5" (vxi11Id 1) == [⟨1, .pad 5, 0, 0⟩])
    [.call 0 (.createLink (.ok (.pad 5)) true) false, .replied 0 true,
      .hangup 0 ⟨[0x80, 0, 0, 8, 1, 2], .eof⟩] (by decide +kernel)
  simp only [Bool.and_eq_true, beq_iff_eq] at htest
  obtain ⟨⟨⟨hphase, hlink⟩, hheld⟩, htaken⟩ := htest
  exact ⟨s, hreach, hphase, hlink, hheld, htaken⟩

end Shared
end Ugpibd.Vxi11
