import Ugpibd.Library.Runs
import Ugpibd.Vxi11.Links

/-! What a step of the core channel can do to the links, the locks and the connections. -/
namespace Ugpibd.Vxi11
open Frontend

/-- The link a waiting task wants the lock for. -/
def Phase.waitsFor : Phase → Option Link
  | .deviceLock link _ | .createLink link _ => some link
  | _ => none

namespace Shared
variable {s s' : Shared} {a : Action} {c : Nat} {link : Link}

@[simp] theorem setPhase_locks (phase : Phase) : (s.setPhase c phase).locks = s.locks := rfl

@[simp] theorem relock_locks (locks : LockRegistry) (granted : Option (Link × String × HolderId)) :
    (s.relock locks granted).locks = locks := rfl

theorem relock_takenBy (locks : LockRegistry) (granted : Option (Link × String × HolderId)) :
    (s.relock locks granted).takenBy = s.takenBy.update locks granted := rfl

theorem setPhase_phase (phase : Phase) (d : Nat) :
    ((s.setPhase c phase).conns d).phase = if d = c then phase else (s.conns d).phase := by
  simp only [setPhase, setConn, Function.update_apply]
  split <;> rfl

theorem setPhase_owned (phase : Phase) (d : Nat) :
    ((s.setPhase c phase).conns d).owned = (s.conns d).owned := by
  simp only [setPhase, setConn, Function.update_apply]
  split
  · rename_i h
    rw [h]
  · rfl

theorem insertLink_getElem? (lid : Int32) :
    (s.insertLink c link).links[lid]? = if link.lid = lid then some link else s.links[lid]? := by
  simp only [insertLink, Std.ExtTreeMap.getElem?_insert, Std.LawfulEqCmp.compare_eq_iff_eq]

theorem removeLink_getElem? (lid lid' : Int32) :
    (s.removeLink c lid).links[lid']? = if lid' ∈ [lid] then none else s.links[lid']? := by
  simp only [removeLink, Std.ExtTreeMap.getElem?_erase, Std.LawfulEqCmp.compare_eq_iff_eq,
    List.mem_singleton]
  simp only [eq_comm]

theorem removeAll_getElem? (owned : List Int32) (links : Std.ExtTreeMap Int32 Link) (lid : Int32) :
    (removeAll owned links).2[lid]? = if lid ∈ owned then none else links[lid]? := by
  induction owned generalizing links with
  | nil => simp [removeAll]
  | cons first owned ih =>
    simp only [removeAll, ih, Std.ExtTreeMap.getElem?_erase, Std.LawfulEqCmp.compare_eq_iff_eq,
      List.mem_cons]
    by_cases hrest : lid ∈ owned
    · simp [hrest]
    · simp [hrest, eq_comm]

theorem mem_removeAll {owned : List Int32} {links : Std.ExtTreeMap Int32 Link} :
    link ∈ (removeAll owned links).1 ↔ ∃ lid ∈ owned, links[lid]? = some link := by
  induction owned generalizing links with
  | nil => simp [removeAll]
  | cons first owned ih =>
    simp only [removeAll, List.mem_append, Option.mem_toList, ih, List.mem_cons]
    constructor
    · rintro (hfirst | ⟨lid, hmem, hlid⟩)
      · exact ⟨first, .inl rfl, hfirst⟩
      · rw [Std.ExtTreeMap.getElem?_erase] at hlid
        split at hlid
        · cases hlid
        · exact ⟨lid, .inr hmem, hlid⟩
    · rintro ⟨lid, rfl | hmem, hlid⟩
      · exact .inl hlid
      · by_cases hfirst : first = lid
        · subst hfirst
          exact .inl hlid
        · refine .inr ⟨lid, hmem, ?_⟩
          rwa [Std.ExtTreeMap.getElem?_erase, if_neg]
          rwa [Std.LawfulEqCmp.compare_eq_iff_eq]

/-- The locks left after those of the listed links are released one link after the other. -/
theorem foldl_releaseAll_holds {removed : List Link} {locks : LockRegistry} {resource : String}
    {holder : HolderId} :
    (removed.foldl (fun locks link => locks.releaseAll link.holder) locks).holds resource holder =
      true ↔ locks.holds resource holder = true ∧ ∀ link ∈ removed, holder ≠ link.holder := by
  induction removed generalizing locks with
  | nil => simp
  | cons link removed ih =>
    rw [List.foldl_cons, ih, LockRegistry.releaseAll_holds, List.forall_mem_cons, and_assoc]

theorem foldl_releaseAll_noEmptyTable {locks : LockRegistry} (hne : locks.NoEmptyTable)
    (removed : List Link) :
    (removed.foldl (fun locks link => locks.releaseAll link.holder) locks).NoEmptyTable := by
  exact List.foldlRecOn removed _ hne fun locks hne link _ =>
    LockRegistry.apply_noEmptyTable hne (.releaseAll link.holder)

/-- Would the registry grant this link its lock now? -/
def grants (s : Shared) (link : Link) : Bool :=
  (s.locks.tryRequest link.resource link.holder "").1.isSome

/-- The link a step asks the registry to lock, if it asks. -/
def requests (s : Shared) : Action → Option Link
  | .call c (.createLink (.ok kind) true) _ =>
    if s.maxLinks ≤ s.links.size then none else some (s.newLink c kind)
  | .call _ (.deviceLock lid _) _ =>
    s.links[lid]?.filter fun link => !s.locks.holds link.resource link.holder
  | .lockRetry c _ => (s.conns c).phase.waitsFor
  | _ => none

/-- Does a refusal in this step take the link out of the table again? -/
def unwinds (s : Shared) : Action → Bool
  | .call _ (.createLink _ _) expired => expired
  | .lockRetry c expired => match (s.conns c).phase with
    | .createLink _ _ => expired
    | _ => false
  | _ => false

/-- The steps in which a lock wait is granted only while its link is in the table, and a link is
unwound only while nothing is held under its id. -/
def grantsStayLinked (s : Shared) (a : Action) : Prop :=
  (∀ c expired link, a = .lockRetry c expired → (s.conns c).phase.waitsFor = some link →
    s.grants link = true → s.links[link.lid]? = some link) ∧
  ∀ link, s.requests a = some link → s.grants link = false → s.unwinds a = true →
    ∀ resource, s.locks.holds resource link.holder = false

/-- The steps in which a connection breaks off only with no link of its own in the table. -/
def breaksOffUnlinked (s : Shared) : Action → Prop
  | .hangup c stream => readRecord s.maxRecord stream ≠ .ok none →
      ∀ lid ∈ (s.conns c).owned, s.links[lid]? = none
  | .replied c written => written = false → ∀ lid ∈ (s.conns c).owned, s.links[lid]? = none
  | _ => True

/-- What one attempt at a link's lock can come to. -/
inductive Turn (s : Shared) (c : Nat) (link : Link) (unwinds : Bool) : Shared → Prop
  | granted (response : LockResponse) (locks : LockRegistry) (reply : Reply) :
      s.locks.tryRequest link.resource link.holder "" = (some response, locks) →
      Turn s c link unwinds
        ((s.relock locks (some (link, link.resource, link.holder))).setPhase c (.replying reply))
  | refused (locks : LockRegistry) (phase : Phase) :
      s.locks.tryRequest link.resource link.holder "" = (none, locks) → phase ≠ .finished →
      Turn s c link unwinds ((s.relock locks none).setPhase c phase)
  | unwound (locks : LockRegistry) (reply : Reply) :
      s.locks.tryRequest link.resource link.holder "" = (none, locks) → unwinds = true →
      Turn s c link unwinds (((s.relock locks none).removeLink c link.lid).setPhase c (.replying reply))

/-- Everything a step can do. -/
inductive Effect (s : Shared) (a : Action) : Shared → Prop
  | unchanged : Effect s a s
  | phased (c : Nat) (phase : Phase) : (s.conns c).phase ≠ .finished → phase ≠ .finished →
      Effect s a (s.setPhase c phase)
  | brokeOff (c : Nat) :
      (s.breaksOffUnlinked a → ∀ lid ∈ (s.conns c).owned, s.links[lid]? = none) →
      Effect s a (s.setPhase c .finished)
  | created (c : Nat) (kind : DeviceAddr) (reply : Reply) : (s.conns c).phase ≠ .finished →
      Effect s a ((s.insertLink c (s.newLink c kind)).setPhase c (.replying reply))
  | createdLocking (c : Nat) (kind : DeviceAddr) (s' : Shared) : (s.conns c).phase ≠ .finished →
      s.requests a = some (s.newLink c kind) →
      Turn (s.insertLink c (s.newLink c kind)) c (s.newLink c kind) (s.unwinds a) s' →
      Effect s a s'
  | locking (c : Nat) (link : Link) (s' : Shared) : (s.conns c).phase ≠ .finished →
      s.requests a = some link →
      (s.grants link = true → s.grantsStayLinked a → ∃ lid : Int32, s.links[lid]? = some link) →
      Turn s c link (s.unwinds a) s' → Effect s a s'
  | destroyed (c : Nat) (lid : Int32) (link : Link) : (s.conns c).phase ≠ .finished →
      s.links[lid]? = some link →
      Effect s a (((s.removeLink c lid).relock (s.locks.releaseAll link.holder) none).setPhase c
        (.replying (.deviceError .noError)))
  | unlocked (c : Nat) (link : Link) : (s.conns c).phase ≠ .finished →
      Effect s a ((s.relock (s.locks.release link.resource link.holder).2 none).setPhase c
        (.replying (.deviceError .noError)))
  | tornDown (c : Nat) : Effect s a (s.teardown c)
  | session (sessionId : UInt16) (call : LockCall) :
      Effect s a (s.relock (s.locks.apply (call.madeBy (hislipId sessionId))).2 none)

private theorem createLinkTurn_turn (link : Link) {expired unwinds : Bool}
    (hu : expired = true → unwinds = true) :
    Turn s c link unwinds (s.createLinkTurn c link expired) := by
  unfold createLinkTurn
  split
  · rename_i response locks hr
    exact .granted response locks _ hr
  · rename_i locks hr
    split
    · exact .unwound locks _ hr (hu ‹_›)
    · exact .refused locks _ hr nofun

private theorem deviceLockTurn_turn (link : Link) (expired unwinds : Bool) :
    Turn s c link unwinds (s.deviceLockTurn c link expired) := by
  unfold deviceLockTurn
  split
  · rename_i response locks hr
    exact .granted response locks _ hr
  · rename_i locks hr
    refine .refused locks _ hr ?_
    split <;> nofun

private theorem dispatch_effect {call : Call} {expired : Bool}
    (hp : (s.conns c).phase ≠ .finished) :
    Effect s (.call c call expired) (s.dispatch c expired call) := by
  cases call with
  | createLink device lockDevice =>
    cases device with
    | error e => exact .phased c _ hp nofun
    | ok kind =>
      simp only [dispatch]
      split
      · exact .phased c _ hp nofun
      · rename_i hroom
        cases lockDevice with
        | true =>
          exact .createdLocking c kind _ hp (by simp only [requests, if_neg hroom])
            (createLinkTurn_turn _ fun he => he)
        | false => exact .created c kind _ hp
  | destroyLink lid =>
    simp only [dispatch]
    split
    · exact .destroyed c lid _ hp ‹_›
    · exact .phased c _ hp nofun
  | deviceLock lid waitlock =>
    simp only [dispatch]
    split
    · rename_i link hlink
      split
      · exact .phased c _ hp nofun
      · rename_i hfree
        exact .locking c link _ hp (by simp [requests, hlink, hfree]) (fun _ _ => ⟨lid, hlink⟩)
          (deviceLockTurn_turn link _ _)
    · exact .phased c _ hp nofun
  | deviceUnlock lid =>
    simp only [dispatch]
    split
    · split
      · exact .unlocked c _ hp
      · exact .phased c _ hp nofun
    · exact .phased c _ hp nofun
  | other => exact .phased c _ hp nofun
  | ignored => exact .unchanged

/-- Every step is one of the listed effects. -/
theorem step_effect (h : s.step a = some s') : Effect s a s' := by
  cases a with
  | call c call expired =>
    simp only [step] at h
    split at h
    · rename_i hp
      obtain rfl := Option.some.inj h
      exact dispatch_effect (by simp [hp])
    · cases h
  | lockRetry c expired =>
    simp only [step] at h
    split at h
    · rename_i link snapshot hp
      split at h
      · obtain rfl := Option.some.inj h
        exact .locking c link _ (by simp [hp]) (by simp only [requests, hp, Phase.waitsFor])
          (fun hg hguard => ⟨_, hguard.1 c expired link rfl (by simp only [hp, Phase.waitsFor]) hg⟩)
          (deviceLockTurn_turn link expired _)
      · cases h
    · rename_i link snapshot hp
      split at h
      · obtain rfl := Option.some.inj h
        exact .locking c link _ (by simp [hp]) (by simp only [requests, hp, Phase.waitsFor])
          (fun hg hguard => ⟨_, hguard.1 c expired link rfl (by simp only [hp, Phase.waitsFor]) hg⟩)
          (createLinkTurn_turn link fun he => by simp only [unwinds, hp, he])
      · cases h
    · cases h
  | lockAbort c =>
    simp only [step] at h
    split at h
    · rename_i hp
      obtain rfl := Option.some.inj h
      exact .phased c _ (by simp [hp]) (by simp)
    · cases h
  | replied c written =>
    simp only [step] at h
    split at h
    · rename_i hp
      obtain rfl := Option.some.inj h
      cases written with
      | true => exact .phased c _ (by simp [hp]) (by simp)
      | false => exact .brokeOff c fun hguard => hguard rfl
    · cases h
  | hangup c stream =>
    simp only [step] at h
    split at h
    · split at h
      · obtain rfl := Option.some.inj h
        exact .tornDown c
      · cases h
      · rename_i hread
        obtain rfl := Option.some.inj h
        exact .brokeOff c fun hguard => hguard (by simp [hread])
    · cases h
  | session sessionId call =>
    obtain rfl := Option.some.inj h
    exact .session sessionId call

private theorem turn_locks {unwinds : Bool} (h : Turn s c link unwinds s') :
    s'.locks = (s.locks.apply (.request link.resource link.holder "")).2 := by
  cases h with
  | granted response locks reply hr => simp [LockRegistry.apply, hr]
  | refused locks phase hr => simp [LockRegistry.apply, hr]
  | unwound locks reply hr => simp [LockRegistry.apply, hr, removeLink, setConn]

/-- The registry calls of a step: a request for the link it asks for, or any number of calls of
which none is a request under a VXI-11 id. -/
theorem step_locks (h : s.step a = some s') :
    (∃ link, s.requests a = some link ∧
      s'.locks = (s.locks.apply (.request link.resource link.holder "")).2) ∨
    ∃ ops : List LockOp, s'.locks = ops.foldl (fun locks op => (locks.apply op).2) s.locks ∧
      ∀ op ∈ ops, ∀ resource lid lockString, op ≠ .request resource (vxi11Id lid) lockString := by
  cases step_effect h with
  | unchanged => exact .inr ⟨[], rfl, nofun⟩
  | phased c phase => exact .inr ⟨[], rfl, nofun⟩
  | brokeOff c => exact .inr ⟨[], rfl, nofun⟩
  | created c kind reply => exact .inr ⟨[], rfl, nofun⟩
  | createdLocking c kind _ hp hreq hturn =>
    have hlocks := turn_locks hturn
    exact .inl ⟨_, hreq, hlocks⟩
  | locking c link _ hp hreq hlinked hturn => exact .inl ⟨_, hreq, turn_locks hturn⟩
  | destroyed c lid link => exact .inr ⟨[.releaseAll link.holder], rfl, by simp⟩
  | unlocked c link => exact .inr ⟨[.release link.resource link.holder], rfl, by simp⟩
  | tornDown c =>
    refine .inr ⟨(removeAll (s.conns c).owned s.links).1.map fun link => .releaseAll link.holder,
      ?_, by simp⟩
    rw [List.foldl_map]
    rfl
  | session sessionId call =>
    refine .inr ⟨[call.madeBy (hislipId sessionId)], rfl, ?_⟩
    intro op hop resource lid lockString heq
    obtain rfl := List.mem_singleton.mp hop
    cases call with
    | request resource' lockString' =>
      obtain ⟨-, hid, -⟩ := LockOp.request.inj heq
      exact hislipId_ne_vxi11Id sessionId lid hid
    | release resource' => cases heq
    | releaseAll => cases heq

theorem step_noEmptyTable (hne : s.locks.NoEmptyTable) (h : s.step a = some s') :
    s'.locks.NoEmptyTable := by
  obtain ⟨link, -, hlocks⟩ | ⟨ops, hlocks, -⟩ := step_locks h
  · rw [hlocks]
    exact LockRegistry.apply_noEmptyTable hne _
  · rw [hlocks]
    exact List.foldlRecOn ops _ hne fun locks hne op _ => LockRegistry.apply_noEmptyTable hne op

/-- The links in the table are among those made so far. -/
def Numbered (s : Shared) : Prop :=
  ∀ (lid : Int32) (link : Link), s.links[lid]? = some link → link.number < s.created

private theorem removeLink_numbered (h : s.Numbered) (c : Nat) (lid : Int32) :
    (s.removeLink c lid).Numbered := by
  intro lid' other hother
  rw [removeLink_getElem?] at hother
  split at hother
  · cases hother
  · exact h lid' other hother

private theorem insertLink_numbered (h : s.Numbered) (kind : DeviceAddr) :
    (s.insertLink c (s.newLink c kind)).Numbered := by
  intro lid other hother
  rw [insertLink_getElem?] at hother
  split at hother
  · obtain rfl := Option.some.inj hother
    exact Nat.lt_succ_self _
  · exact (h lid other hother).trans (Nat.lt_succ_self _)

private theorem turn_numbered (h : s.Numbered) {unwinds : Bool} (hturn : Turn s c link unwinds s') :
    s'.created = s.created ∧ s'.Numbered := by
  cases hturn with
  | granted | refused => exact ⟨rfl, h⟩
  | unwound locks =>
    have hlocked : (s.relock locks none).Numbered := h
    exact ⟨rfl, removeLink_numbered hlocked c link.lid⟩

theorem step_made (h : s.Numbered) (hstep : s.step a = some s') :
    s.created ≤ s'.created ∧ s'.Numbered := by
  cases step_effect hstep with
  | unchanged | phased | brokeOff | unlocked | session => exact ⟨Nat.le_refl _, h⟩
  | created c kind => exact ⟨Nat.le_succ _, insertLink_numbered h kind⟩
  | createdLocking c kind _ _ _ hturn =>
    obtain ⟨hcreated, hnumbered⟩ := turn_numbered (insertLink_numbered h kind) hturn
    exact ⟨hcreated ▸ Nat.le_succ _, hnumbered⟩
  | locking c link _ _ _ _ hturn =>
    obtain ⟨hcreated, hnumbered⟩ := turn_numbered h hturn
    exact ⟨hcreated.ge, hnumbered⟩
  | destroyed c lid => exact ⟨Nat.le_refl _, removeLink_numbered h c lid⟩
  | tornDown c =>
    refine ⟨Nat.le_refl _, fun lid other hother => ?_⟩
    have hrest : (removeAll (s.conns c).owned s.links).2[lid]? = some other := hother
    rw [removeAll_getElem?] at hrest
    split at hrest
    · cases hrest
    · exact h lid other hrest

end Shared
end Ugpibd.Vxi11
