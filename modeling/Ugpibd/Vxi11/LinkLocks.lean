import Ugpibd.Vxi11.LinkSteps

/-! Whose locks the VXI-11 ids in the registry are. A removed link takes its locks along; what a
wait that has outlived its link is granted nobody takes along. -/
namespace Ugpibd.Vxi11
open Frontend Library

namespace Shared
variable {s s' : Shared} {a : Action} {c : Nat} {link : Link}

/-- Every lock under a VXI-11 id goes with a link in the table, and none was taken by a link that
has been removed from it. -/
structure Linked (s : Shared) : Prop where
  noEmptyTable : s.locks.NoEmptyTable
  tabled : ∀ (lid : Int32) (link : Link), s.links[lid]? = some link →
    link.lid = lid ∧ link.number < s.created ∧ link ∉ s.destroyed
  destroyed_made : ∀ link ∈ s.destroyed, link.number < s.created
  taken_held : ∀ resource holder, s.takenBy resource holder ≠ [] →
    s.locks.holds resource holder = true
  held : ∀ resource (lid : Int32), s.locks.holds resource (vxi11Id lid) = true →
    (∃ link, s.links[lid]? = some link) ∧ s.takenBy resource (vxi11Id lid) ≠ [] ∧
    ∀ link ∈ s.takenBy resource (vxi11Id lid), link.lid = lid ∧ link ∉ s.destroyed

theorem Linked.keyed (h : s.Linked) (lid : Int32) (link : Link) (hlink : s.links[lid]? = some link) :
    link.lid = lid :=
  (h.tabled lid link hlink).1

theorem linked_default (maxRecvSize : UInt32) (maxLinks : Nat) (abortPort : UInt16) :
    Linked { maxRecvSize, maxLinks, abortPort } where
  noEmptyTable := LockRegistry.noEmptyTable_default
  tabled := by intro lid link h; simp at h
  destroyed_made := by intro link h; cases h
  taken_held := by intro resource holder h; exact absurd rfl h
  held := by intro resource lid h; simp [LockRegistry.holds] at h

private theorem setPhase_linked (h : s.Linked) (c : Nat) (phase : Phase) :
    (s.setPhase c phase).Linked :=
  ⟨h.noEmptyTable, h.tabled, h.destroyed_made, h.taken_held, h.held⟩

/-- A call that gives no link a lock leaves the rest with their takers. -/
private theorem relock_linked (h : s.Linked) {locks : LockRegistry} (hne : locks.NoEmptyTable)
    (hsub : ∀ resource (lid : Int32), locks.holds resource (vxi11Id lid) = true →
      s.locks.holds resource (vxi11Id lid) = true) : (s.relock locks none).Linked where
  noEmptyTable := hne
  tabled := h.tabled
  destroyed_made := h.destroyed_made
  taken_held := by
    intro resource holder htaken
    rw [relock_takenBy] at htaken
    exact Takers.holds_of_update_ne_nil htaken
  held := by
    intro resource lid hheld
    rw [relock_locks] at hheld
    obtain ⟨hlink, htaken⟩ := h.held resource lid (hsub resource lid hheld)
    refine ⟨hlink, ?_⟩
    rwa [relock_takenBy, Takers.update_of_ne hheld nofun]

/-- A link in the table may be granted its lock. -/
private theorem granted_linked (h : s.Linked) {lid : Int32} (hlink : s.links[lid]? = some link)
    {response : LockResponse} {locks : LockRegistry}
    (hr : s.locks.tryRequest link.resource link.holder "" = (some response, locks)) :
    (s.relock locks (some (link, link.resource, link.holder))).Linked where
  noEmptyTable := by
    have := LockRegistry.apply_noEmptyTable h.noEmptyTable (.request link.resource link.holder "")
    rwa [LockRegistry.apply, hr] at this
  tabled := h.tabled
  destroyed_made := h.destroyed_made
  taken_held := by
    intro resource holder htaken
    rw [relock_takenBy] at htaken
    exact Takers.holds_of_update_ne_nil htaken
  held := by
    intro resource lid' hheld
    rw [relock_locks] at hheld
    rw [relock_takenBy]
    rcases Takers.update_of_granted hr hheld with ⟨rfl, hid⟩ | ⟨hheld', hsame⟩
    · obtain rfl : lid' = link.lid := vxi11Id_injective hid
      obtain ⟨rfl, -, hkept⟩ := h.tabled lid link hlink
      refine ⟨⟨link, hlink⟩, List.ne_nil_of_mem (Takers.mem_update.mpr ⟨hheld, .inr rfl⟩), ?_⟩
      intro taker htaker
      rcases (Takers.mem_update.mp htaker).2 with htaker | htaker
      · exact (h.held _ _ (h.taken_held _ _ (List.ne_nil_of_mem htaker))).2.2 taker htaker
      · obtain rfl : link = taker := congrArg Prod.fst (Option.some.inj htaker)
        exact ⟨rfl, hkept⟩
    · rw [hsame]
      exact h.held resource lid' hheld'

/-- A new link may even take the place of another under a reused id. -/
theorem insertLink_linked (h : s.Linked) (c : Nat) (kind : DeviceAddr) :
    (s.insertLink c (s.newLink c kind)).Linked where
  noEmptyTable := h.noEmptyTable
  tabled := by
    intro lid link hlink
    rw [insertLink_getElem?] at hlink
    split at hlink
    · rename_i hlid
      obtain rfl := Option.some.inj hlink
      exact ⟨hlid, Nat.lt_succ_self _, fun hgone => Nat.lt_irrefl _ (h.destroyed_made _ hgone)⟩
    · obtain ⟨hlid, hmade, hkept⟩ := h.tabled lid link hlink
      exact ⟨hlid, Nat.lt_succ_of_lt hmade, hkept⟩
  destroyed_made := fun link hlink => Nat.lt_succ_of_lt (h.destroyed_made link hlink)
  taken_held := h.taken_held
  held := by
    intro resource lid hheld
    obtain ⟨⟨link, hlink⟩, htaken⟩ := h.held resource lid hheld
    refine ⟨?_, htaken⟩
    rw [insertLink_getElem?]
    split
    · exact ⟨_, rfl⟩
    · exact ⟨link, hlink⟩

/-- Links may leave the table once nothing is held under their ids. -/
private theorem remove_linked (h : s.Linked) (owned : List Int32) (removed : List Link)
    (hremoved : ∀ link, link ∈ removed ↔ ∃ lid ∈ owned, s.links[lid]? = some link)
    (hfree : ∀ link ∈ removed, ∀ resource, s.locks.holds resource link.holder = false)
    {links : Std.ExtTreeMap Int32 Link}
    (hlinks : ∀ lid, links[lid]? = if lid ∈ owned then none else s.links[lid]?) :
    Linked { s with links, destroyed := removed ++ s.destroyed } := by
  have hlid : ∀ link ∈ removed, link.lid ∈ owned := by
    intro link hlink
    obtain ⟨lid, hmem, hfound⟩ := (hremoved link).mp hlink
    rwa [h.keyed lid link hfound]
  have hkeeps : ∀ link, link.lid ∉ owned → link ∉ s.destroyed → link ∉ removed ++ s.destroyed := by
    intro link hout hkept hmem
    rcases List.mem_append.mp hmem with hmem | hmem
    · exact hout (hlid link hmem)
    · exact hkept hmem
  refine ⟨h.noEmptyTable, ?_, ?_, h.taken_held, ?_⟩
  · intro lid link hlink
    dsimp only at hlink
    rw [hlinks] at hlink
    split at hlink
    · cases hlink
    · rename_i hout
      obtain ⟨rfl, hmade, hkept⟩ := h.tabled lid link hlink
      exact ⟨rfl, hmade, hkeeps link hout hkept⟩
  · intro link hlink
    rcases List.mem_append.mp hlink with hlink | hlink
    · obtain ⟨lid, -, hfound⟩ := (hremoved link).mp hlink
      exact (h.tabled lid link hfound).2.1
    · exact h.destroyed_made link hlink
  · intro resource lid hheld
    obtain ⟨⟨link, hlink⟩, hsome, hall⟩ := h.held resource lid hheld
    have hout : lid ∉ owned := by
      intro hmem
      have hno := hfree link ((hremoved link).mpr ⟨lid, hmem, hlink⟩) resource
      rw [Link.holder, h.keyed lid link hlink] at hno
      exact absurd (hheld.symm.trans hno) (by simp)
    refine ⟨⟨link, by dsimp only; rw [hlinks, if_neg hout, hlink]⟩, hsome, fun taker htaker => ?_⟩
    obtain ⟨rfl, hkept⟩ := hall taker htaker
    exact ⟨rfl, hkeeps taker hout hkept⟩

private theorem removeLink_linked (h : s.Linked) (c : Nat) {lid : Int32}
    (hfree : ∀ resource, s.locks.holds resource (vxi11Id lid) = false) :
    (s.removeLink c lid).Linked := by
  have hremoved := remove_linked h [lid] s.links[lid]?.toList (by simp) (fun link hlink => by
    rw [Link.holder, h.keyed lid link (Option.mem_toList.mp hlink)]
    exact hfree) (fun lid' => removeLink_getElem? (c := c) lid lid')
  exact ⟨hremoved.noEmptyTable, hremoved.tabled, hremoved.destroyed_made, hremoved.taken_held,
    hremoved.held⟩

private theorem teardown_linked (h : s.Linked) (c : Nat) : (s.teardown c).Linked := by
  have hrelock := relock_linked h
    (foldl_releaseAll_noEmptyTable h.noEmptyTable (removeAll (s.conns c).owned s.links).1)
    fun resource lid hheld => (foldl_releaseAll_holds.mp hheld).1
  have hremoved := remove_linked hrelock (s.conns c).owned (removeAll (s.conns c).owned s.links).1
    (fun link => mem_removeAll) (fun link hlink resource => by
      rw [relock_locks, ← Bool.not_eq_true, foldl_releaseAll_holds]
      exact fun hno => hno.2 link hlink rfl) (removeAll_getElem? (s.conns c).owned s.links)
  exact ⟨hremoved.noEmptyTable, hremoved.tabled, hremoved.destroyed_made, hremoved.taken_held,
    hremoved.held⟩

/-- One attempt at a lock keeps the locks linked, where its link is in the table if it is granted
and nothing is held under its id if it is unwound. -/
private theorem turn_linked (h : s.Linked) {unwinds : Bool} (hturn : Turn s c link unwinds s')
    (hgrants : s.grants link = true → ∃ lid : Int32, s.links[lid]? = some link)
    (hunwinds : s.grants link = false → unwinds = true →
      ∀ resource, s.locks.holds resource link.holder = false) : s'.Linked := by
  cases hturn with
  | granted response locks reply hr =>
    obtain ⟨lid, hlink⟩ := hgrants (by simp [grants, hr])
    exact setPhase_linked (granted_linked h hlink hr) c _
  | refused locks phase hr =>
    obtain rfl := LockRegistry.tryRequest_refused h.noEmptyTable hr
    exact setPhase_linked (relock_linked h h.noEmptyTable fun _ _ hheld => hheld) c _
  | unwound locks reply hr hu =>
    obtain rfl := LockRegistry.tryRequest_refused h.noEmptyTable hr
    have hfree := hunwinds (by simp [grants, hr]) hu
    exact setPhase_linked (removeLink_linked
      (relock_linked h h.noEmptyTable fun _ _ hheld => hheld) c hfree) c _

/-- One step keeps the locks linked, as long as waits are granted only to links in the table. -/
theorem step_linked (h : s.Linked) (hg : s.grantsStayLinked a) (hstep : s.step a = some s') :
    s'.Linked := by
  cases step_effect hstep with
  | unchanged => exact h
  | phased c phase => exact setPhase_linked h c phase
  | brokeOff c => exact setPhase_linked h c .finished
  | created c kind reply => exact setPhase_linked (insertLink_linked h c kind) c _
  | createdLocking c kind _ hp hreq hturn =>
    refine turn_linked (insertLink_linked h c kind) hturn (fun _ => ⟨s.nextLid, ?_⟩)
      fun hno hu => hg.2 _ hreq hno hu
    exact (insertLink_getElem? _).trans (if_pos rfl)
  | locking c link _ hp hreq hlinked hturn =>
    exact turn_linked h hturn (fun hyes => hlinked hyes hg) fun hno hu => hg.2 _ hreq hno hu
  | destroyed c lid link hp hlink =>
    have hrelock : (s.relock (s.locks.releaseAll link.holder) none).Linked :=
      relock_linked h (LockRegistry.apply_noEmptyTable h.noEmptyTable (.releaseAll link.holder))
        fun _ _ hheld => (LockRegistry.releaseAll_holds.mp hheld).1
    refine setPhase_linked (removeLink_linked hrelock c fun resource => ?_) c _
    rw [relock_locks, ← h.keyed lid link hlink, ← Bool.not_eq_true, LockRegistry.releaseAll_holds]
    exact fun hno => hno.2 rfl
  | unlocked c link =>
    refine setPhase_linked (relock_linked h (LockRegistry.apply_noEmptyTable h.noEmptyTable
      (.release link.resource link.holder)) fun _ _ => LockRegistry.release_holds_sub rfl) c _
  | tornDown c => exact teardown_linked h c
  | session sessionId call =>
    refine relock_linked h (LockRegistry.apply_noEmptyTable h.noEmptyTable _) fun resource lid hheld => ?_
    rwa [LockRegistry.madeBy_holds_other h.noEmptyTable (Ne.symm (hislipId_ne_vxi11Id sessionId lid))]
      at hheld

theorem linked_of_reach {maxRecvSize : UInt32} {maxLinks : Nat} {abortPort : UInt16}
    (h : Reach step grantsStayLinked { maxRecvSize, maxLinks, abortPort } s) : s.Linked :=
  Reach.invariant h (linked_default maxRecvSize maxLinks abortPort)
    fun _ _ _ hlinked hg hstep => step_linked hlinked hg hstep

/-- In every run that grants waits only to links still in the table, each VXI-11 id in the
registry is that of a link in the table, and no link removed from it took the lock. -/
theorem vxi11_locks_belong_to_tabled_links {maxRecvSize : UInt32} {maxLinks : Nat}
    {abortPort : UInt16} (h : Reach step grantsStayLinked { maxRecvSize, maxLinks, abortPort } s)
    (resource : String) (lid : Int32) (hheld : s.locks.holds resource (vxi11Id lid) = true) :
    (∃ link, s.links[lid]? = some link) ∧ s.takenBy resource (vxi11Id lid) ≠ [] ∧
      ∀ link ∈ s.takenBy resource (vxi11Id lid), link.lid = lid ∧ link ∉ s.destroyed :=
  (linked_of_reach h).held resource lid hheld

/-- A first `create_link` with the lock finds the instrument free. -/
theorem grantsStayLinked_first_createLink :
    grantsStayLinked {} (.call 0 (.createLink (.ok (.pad 5)) true) false) := by
  refine ⟨fun _ _ _ h => (nomatch h), fun link hreq hno => ?_⟩
  obtain rfl := Option.some.inj hreq
  exact absurd hno (by decide)

/-- A link created with its lock is in the table while it holds it. -/
theorem created_link_holds_its_lock : ∃ s, Reach step grantsStayLinked {} s ∧
    s.locks.holds "gpib5" (vxi11Id 1) = true ∧ ∃ link, s.links[(1 : Int32)]? = some link := by
  have hrun : Reach step grantsStayLinked {} _ :=
    Reach.refl.tail grantsStayLinked_first_createLink rfl
  exact ⟨_, hrun, by decide +kernel,
    (vxi11_locks_belong_to_tabled_links hrun "gpib5" 1 (by decide +kernel)).1⟩

/-- A `device_lock` that waits while its link is destroyed from another connection is granted all
the same, and nothing is left to release the lock. -/
theorem device_lock_outlives_its_link : ∃ s, Reach step anyStep {} s ∧
    s.locks.holds "gpib5" (vxi11Id 1) = true ∧ s.links[(1 : Int32)]? = none ∧
    s.takenBy "gpib5" (vxi11Id 1) = [⟨1, .pad 5, 0, 0⟩] ∧
    (s.conns 0).phase = .replying (.deviceError .noError) := by
  obtain ⟨s, hreach, htest⟩ := exists_reach_of_exec step {}
    (fun s => s.locks.holds "gpib5" (vxi11Id 1) && s.links[(1 : Int32)]? == none &&
      s.takenBy "gpib5" (vxi11Id 1) == [⟨1, .pad 5, 0, 0⟩] &&
      (s.conns 0).phase == .replying (.deviceError .noError))
    [.call 0 (.createLink (.ok (.pad 5)) false) false, .replied 0 true,
      .session 0 (.request "gpib5" ""), .call 0 (.deviceLock 1 true) false,
      .call 1 (.destroyLink 1) false, .session 0 (.release "gpib5"), .lockRetry 0 false]
    (by decide +kernel)
  simp only [Bool.and_eq_true, beq_iff_eq] at htest
  obtain ⟨⟨⟨hheld, hgone⟩, htaken⟩, hphase⟩ := htest
  exact ⟨s, hreach, hheld, hgone, htaken, hphase⟩

end Shared
end Ugpibd.Vxi11
