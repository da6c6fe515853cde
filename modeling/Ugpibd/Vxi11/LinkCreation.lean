import Ugpibd.Daemon.Names
import Ugpibd.Vxi11.LinkSteps

/-! `create_link` against everything else that goes on. The link is in the table before its lock is
granted, and is taken out again when it is not. Ids are counted by 32 bits: until the count has come
round, nobody else has anything to do with the id of a link that is being created. -/
namespace Ugpibd.Vxi11
open Frontend Library Daemon

/-- The connection whose task takes the step. -/
def Action.actor : Action → Option Nat
  | .call c _ _ | .lockRetry c _ | .lockAbort c | .replied c _ | .hangup c _ => some c
  | .session _ _ => none

/-- The link a call is about, by its id. -/
def Call.names : Call → Option Int32
  | .destroyLink lid | .deviceLock lid _ | .deviceUnlock lid => some lid
  | .createLink _ _ | .other | .ignored => none

def Action.names : Action → Option Int32
  | .call _ made _ => made.names
  | _ => none

/-- The id of the link that is made after so many others. -/
def lidAt (created : Nat) : Int32 := Int32.ofNat (created + 1)

theorem lidAt_succ (n : Nat) : lidAt (n + 1) = lidAt n + 1 := Int32.ofNat_add (n + 1) 1

/-- The count has not come round. -/
theorem lidAt_ne {m n : Nat} (h : m < n) (hn : n < 2 ^ 32) : lidAt m ≠ lidAt n := by
  intro heq
  have hbits : (BitVec.ofNat 32 (m + 1)).toNat = (BitVec.ofNat 32 (n + 1)).toNat :=
    congrArg (fun lid : Int32 => lid.toBitVec.toNat) heq
  rw [BitVec.toNat_ofNat, BitVec.toNat_ofNat] at hbits
  omega

theorem parseDeviceName_error {name : List Char} {defaultPad : UInt8} {e : ErrorCode}
    (h : parseDeviceName name defaultPad = .error e) : e ≠ .noError := by
  rintro rfl
  simp only [parseDeviceName, parseBusAddress] at h
  split_ifs at h
  split at h
  · cases h
  · repeat (first | (split at h) | cases h)

namespace Shared
variable {s s' : Shared} {a : Action} {c : Nat} {link : Link} {lid : Int32} {free : Nat → Prop}
  {found : Option Link} {conns : Nat → Conn}

theorem createLinkTurn_created (expired : Bool) :
    (s.createLinkTurn c link expired).created = s.created := by
  unfold createLinkTurn
  split
  · rfl
  · split <;> rfl

theorem insertLink_keyed
    (h : ∀ (lid : Int32) (link : Link), s.links[lid]? = some link → link.lid = lid) (lid : Int32)
    (other : Link) (hother : (s.insertLink c link).links[lid]? = some other) : other.lid = lid := by
  rw [insertLink_getElem?] at hother
  split at hother
  · rename_i hlid
    obtain rfl := Option.some.inj hother
    exact hlid
  · exact h lid other hother

/-- The id is apart from all that the `free` connections can get at: it is on none of their lists, none
of them waits for its lock, and it has none. What the table has of it and the other connections are
given. -/
structure Apart (lid : Int32) (free : Nat → Prop) (found : Option Link) (conns : Nat → Conn)
    (s : Shared) : Prop where
  noEmptyTable : s.locks.NoEmptyTable
  keyed : ∀ (lid : Int32) (link : Link), s.links[lid]? = some link → link.lid = lid
  unheld : ∀ resource, s.locks.holds resource (vxi11Id lid) = false
  owned : ∀ d, free d → lid ∉ (s.conns d).owned
  waits : ∀ d, free d → ∀ link, (s.conns d).phase.waitsFor = some link → link.lid ≠ lid
  found : s.links[lid]? = found
  kept : ∀ d, ¬free d → s.conns d = conns d

namespace Apart

theorem setConn (h : s.Apart lid free found conns) (hc : free c) (conn : Conn)
    (howned : lid ∉ conn.owned)
    (hwaits : ∀ link, conn.phase.waitsFor = some link → link.lid ≠ lid) :
    (s.setConn c conn).Apart lid free found conns where
  noEmptyTable := h.noEmptyTable
  keyed := h.keyed
  unheld := h.unheld
  owned := by
    intro d hd
    by_cases hdc : d = c
    · subst hdc
      simpa only [Shared.setConn, Function.update_self] using howned
    · simpa only [Shared.setConn, Function.update_of_ne hdc] using h.owned d hd
  waits := by
    intro d hd
    by_cases hdc : d = c
    · subst hdc
      simpa only [Shared.setConn, Function.update_self] using hwaits
    · simpa only [Shared.setConn, Function.update_of_ne hdc] using h.waits d hd
  found := h.found
  kept := by
    intro d hd
    have hne : d ≠ c := by
      rintro rfl
      exact hd hc
    exact (Function.update_of_ne hne _ _).trans (h.kept d hd)

theorem setPhase (h : s.Apart lid free found conns) (hc : free c) {phase : Phase}
    (hphase : ∀ link, phase.waitsFor = some link → link.lid ≠ lid) :
    (s.setPhase c phase).Apart lid free found conns := h.setConn hc _ (h.owned c hc) hphase

theorem reply (h : s.Apart lid free found conns) (hc : free c) (reply : Reply) :
    (s.reply c reply).Apart lid free found conns := h.setPhase hc nofun

theorem relock (h : s.Apart lid free found conns) {locks : LockRegistry} (hne : locks.NoEmptyTable)
    (hsub : ∀ resource, locks.holds resource (vxi11Id lid) = true →
      s.locks.holds resource (vxi11Id lid) = true) (granted : Option (Link × String × HolderId)) :
    (s.relock locks granted).Apart lid free found conns where
  noEmptyTable := hne
  keyed := h.keyed
  unheld := by
    intro resource
    refine Bool.eq_false_iff.mpr fun hheld => ?_
    exact absurd (hsub resource hheld) (Bool.eq_false_iff.mp (h.unheld resource))
  owned := h.owned
  waits := h.waits
  found := h.found
  kept := h.kept

theorem insertLink (h : s.Apart lid free found conns) (hc : free c) (hlink : link.lid ≠ lid) :
    (s.insertLink c link).Apart lid free found conns := by
  have howned : lid ∉ (s.conns c).owned ++ [link.lid] := by
    simpa using ⟨h.owned c hc, Ne.symm hlink⟩
  refine { h.setConn hc ⟨_, _⟩ howned (h.waits c hc) with
    keyed := insertLink_keyed h.keyed, found := ?_ }
  rw [insertLink_getElem?, if_neg hlink, h.found]

theorem removeLink (h : s.Apart lid free found conns) (hc : free c) {lid' : Int32}
    (hlid : lid' ≠ lid) : (s.removeLink c lid').Apart lid free found conns := by
  have howned : lid ∉ (s.conns c).owned.filter (· != lid') :=
    fun hmem => h.owned c hc (List.mem_of_mem_filter hmem)
  refine { h.setConn hc ⟨_, _⟩ howned (h.waits c hc) with keyed := ?_, found := ?_ }
  · intro lid'' other hother
    rw [removeLink_getElem?] at hother
    split at hother
    · cases hother
    · exact h.keyed lid'' other hother
  · rw [removeLink_getElem?, if_neg (by simpa using Ne.symm hlid), h.found]

/-- What a granted request holds, and what a refused one leaves. -/
theorem request (h : s.Apart lid free found conns) (hlink : link.lid ≠ lid)
    {response : Option LockResponse} {locks : LockRegistry}
    (hr : s.locks.tryRequest link.resource link.holder "" = (response, locks))
    (granted : Option (Link × String × HolderId)) :
    (s.relock locks granted).Apart lid free found conns := by
  have hne : locks.NoEmptyTable := by
    have happly := LockRegistry.apply_noEmptyTable h.noEmptyTable
      (.request link.resource link.holder "")
    rwa [LockRegistry.apply, hr] at happly
  refine h.relock hne (fun resource hheld => ?_) granted
  cases response with
  | none => rwa [LockRegistry.tryRequest_refused h.noEmptyTable hr] at hheld
  | some response =>
    rcases (LockRegistry.granted_holds hr).mp hheld with hheld | ⟨-, hid⟩
    · exact hheld
    · exact absurd (vxi11Id_injective hid).symm hlink

theorem createLinkTurn (h : s.Apart lid free found conns) (hc : free c) (hlink : link.lid ≠ lid)
    (expired : Bool) : (s.createLinkTurn c link expired).Apart lid free found conns := by
  unfold Shared.createLinkTurn
  split
  · exact (h.request hlink ‹_› _).reply hc _
  · have hlocked := h.request hlink ‹_› none
    split
    · exact (hlocked.removeLink hc hlink).reply hc _
    · refine hlocked.setPhase hc ?_
      rintro _ ⟨⟩
      exact hlink

theorem deviceLockTurn (h : s.Apart lid free found conns) (hc : free c) (hlink : link.lid ≠ lid)
    (expired : Bool) : (s.deviceLockTurn c link expired).Apart lid free found conns := by
  unfold Shared.deviceLockTurn
  split
  · exact (h.request hlink ‹_› _).reply hc _
  · refine (h.request hlink ‹_› none).setPhase hc ?_
    split
    · nofun
    · rintro _ ⟨⟩
      exact hlink

theorem teardown (h : s.Apart lid free found conns) (hc : free c) :
    (s.teardown c).Apart lid free found conns := by
  have hgone : ∀ lid', (s.teardown c).links[lid']? =
      if lid' ∈ (s.conns c).owned then none else s.links[lid']? :=
    removeAll_getElem? (s.conns c).owned s.links
  have hlocked : ((s.relock ((removeAll (s.conns c).owned s.links).1.foldl
      (fun locks link => locks.releaseAll link.holder) s.locks) none).setPhase c
      .finished).Apart lid free found conns :=
    (h.relock (foldl_releaseAll_noEmptyTable h.noEmptyTable _)
      (fun resource hheld => (foldl_releaseAll_holds.mp hheld).1) none).setPhase hc nofun
  refine ⟨hlocked.noEmptyTable, fun lid' other hother => ?_, hlocked.unheld, hlocked.owned,
    hlocked.waits, ?_, hlocked.kept⟩
  · rw [hgone] at hother
    split at hother
    · cases hother
    · exact h.keyed lid' other hother
  · rw [hgone, if_neg (h.owned c hc), h.found]

theorem dispatch (h : s.Apart lid free found conns) (hc : free c) {call : Call} {expired : Bool}
    (hnames : call.names = some lid → found = none)
    (hfresh : s.created < (s.dispatch c expired call).created → s.nextLid ≠ lid) :
    (s.dispatch c expired call).Apart lid free found conns := by
  -- a link that is found has another id, or its call would name this one
  have hother : ∀ {lid' : Int32} {other : Link}, call.names = some lid' → s.links[lid']? = some other →
      other.lid ≠ lid := by
    intro lid' other hcall hother hlid
    rw [h.keyed lid' other hother] at hlid
    subst hlid
    rw [h.found, hnames hcall] at hother
    cases hother
  cases call with
  | createLink device lockDevice =>
    cases device with
    | error e => exact h.reply hc _
    | ok kind =>
      simp only [Shared.dispatch] at hfresh ⊢
      split
      · exact h.reply hc _
      · rename_i hroom
        rw [if_neg hroom] at hfresh
        cases lockDevice with
        | true =>
          have hlid : s.nextLid ≠ lid := hfresh (by
            rw [if_pos rfl, createLinkTurn_created]
            exact Nat.lt_succ_self _)
          exact (h.insertLink hc hlid).createLinkTurn hc hlid expired
        | false =>
          have hlid : s.nextLid ≠ lid := hfresh (Nat.lt_succ_self _)
          exact (h.insertLink hc hlid).reply hc _
  | destroyLink lid' =>
    simp only [Shared.dispatch]
    split
    · rename_i other hfound
      have hlid : lid' ≠ lid := by
        rw [← h.keyed lid' other hfound]
        exact hother rfl hfound
      refine ((h.removeLink hc hlid).relock ?_ ?_ none).reply hc _
      · exact LockRegistry.apply_noEmptyTable h.noEmptyTable (.releaseAll other.holder)
      · exact fun resource hheld => (LockRegistry.releaseAll_holds.mp hheld).1
    · exact h.reply hc _
  | deviceLock lid' waitlock =>
    simp only [Shared.dispatch]
    split
    · split
      · exact h.reply hc _
      · exact h.deviceLockTurn hc (hother rfl ‹_›) _
    · exact h.reply hc _
  | deviceUnlock lid' =>
    simp only [Shared.dispatch]
    split
    · rename_i other hfound
      split
      · refine (h.relock ?_ (fun resource => LockRegistry.release_holds_sub rfl) none).reply hc _
        exact LockRegistry.apply_noEmptyTable h.noEmptyTable (.release other.resource other.holder)
      · exact h.reply hc _
    · exact h.reply hc _
  | other => exact h.reply hc _
  | ignored => exact h

/-- A step of a connection that has nothing to do with the id, nor names it unless there is no such
link, leaves it apart. -/
theorem step (h : s.Apart lid free found conns) (hactor : ∀ c, a.actor = some c → free c)
    (hnames : a.names = some lid → found = none) (hfresh : s.created < s'.created → s.nextLid ≠ lid)
    (hstep : s.step a = some s') : s'.Apart lid free found conns := by
  cases a with
  | call c call expired =>
    simp only [Shared.step] at hstep
    split at hstep
    · obtain rfl := Option.some.inj hstep
      exact h.dispatch (hactor c rfl) hnames hfresh
    · cases hstep
  | lockRetry c expired =>
    have hc := hactor c rfl
    have hwaits := h.waits c hc
    simp only [Shared.step] at hstep
    split at hstep
    · rename_i other snapshot hphase
      rw [hphase] at hwaits
      split at hstep
      · obtain rfl := Option.some.inj hstep
        exact h.deviceLockTurn hc (hwaits other rfl) expired
      · cases hstep
    · rename_i other snapshot hphase
      rw [hphase] at hwaits
      split at hstep
      · obtain rfl := Option.some.inj hstep
        exact h.createLinkTurn hc (hwaits other rfl) expired
      · cases hstep
    · cases hstep
  | lockAbort c =>
    simp only [Shared.step] at hstep
    split at hstep
    · obtain rfl := Option.some.inj hstep
      exact h.reply (hactor c rfl) _
    · cases hstep
  | replied c written =>
    simp only [Shared.step] at hstep
    split at hstep
    · obtain rfl := Option.some.inj hstep
      refine h.setPhase (hactor c rfl) ?_
      cases written <;> simp [Phase.waitsFor]
    · cases hstep
  | hangup c stream =>
    simp only [Shared.step] at hstep
    split at hstep
    · split at hstep
      · obtain rfl := Option.some.inj hstep
        exact h.teardown (hactor c rfl)
      · cases hstep
      · obtain rfl := Option.some.inj hstep
        exact h.setPhase (hactor c rfl) (by simp [Phase.waitsFor])
    · cases hstep
  | session sessionId call =>
    obtain rfl := Option.some.inj hstep
    refine h.relock (LockRegistry.apply_noEmptyTable h.noEmptyTable _) (fun resource hheld => ?_) none
    rwa [LockRegistry.madeBy_holds_other h.noEmptyTable (Ne.symm (hislipId_ne_vxi11Id sessionId lid))]
      at hheld

end Apart

/-- The next id is that of the links made so far. -/
theorem step_numbered (h : s.nextLid = lidAt s.created) (hstep : s.step a = some s') :
    s'.nextLid = lidAt s'.created ∧ s.created ≤ s'.created := by
  have hinsert : s.nextLid + 1 = lidAt (s.created + 1) := by rw [h, lidAt_succ]
  cases step_effect hstep with
  | unchanged | phased | brokeOff | destroyed | unlocked | tornDown | session =>
    exact ⟨h, Nat.le_refl _⟩
  | created => exact ⟨hinsert, Nat.le_succ _⟩
  | createdLocking c kind _ _ _ hturn =>
    cases hturn with
    | granted | refused | unwound => exact ⟨hinsert, Nat.le_succ _⟩
  | locking c link _ _ _ _ hturn =>
    cases hturn with
    | granted | refused | unwound => exact ⟨h, Nat.le_refl _⟩

/-- An id that no link has had yet is apart from everybody. -/
theorem apart_of_reach {maxRecvSize : UInt32} {maxLinks : Nat} {abortPort : UInt16}
    (h : Reach step anyStep { maxRecvSize, maxLinks, abortPort } s) :
    s.nextLid = lidAt s.created ∧
      ∀ n, s.created ≤ n → n < 2 ^ 32 → s.Apart (lidAt n) (fun _ => True) none s.conns := by
  refine h.invariant (P := fun s => s.nextLid = lidAt s.created ∧
    ∀ n, s.created ≤ n → n < 2 ^ 32 → s.Apart (lidAt n) (fun _ => True) none s.conns)
    ⟨rfl, fun n _ _ => ?_⟩ ?_
  · refine ⟨LockRegistry.noEmptyTable_default, ?_, ?_, ?_, nofun, ?_, fun _ _ => rfl⟩
    · intro lid link hlink
      simp at hlink
    · intro resource
      simp [LockRegistry.holds]
    · rintro d - ⟨⟩
    · simp
  · rintro s a t ⟨hnumbered, hapart⟩ - hstep
    obtain ⟨hnumbered', hle⟩ := step_numbered hnumbered hstep
    refine ⟨hnumbered', fun n hn hlt => ?_⟩
    have hkept := (hapart n (hle.trans hn) hlt).step (fun _ _ => trivial) (fun _ => rfl)
      (fun hmade => hnumbered ▸ lidAt_ne (Nat.lt_of_lt_of_le hmade hn) hlt) hstep
    exact { hkept with kept := fun _ _ => rfl }

theorem removeAll_size_le (owned : List Int32) (links : Std.ExtTreeMap Int32 Link) :
    (removeAll owned links).2.size ≤ links.size := by
  induction owned generalizing links with
  | nil => exact Nat.le_refl _
  | cons lid owned ih => exact (ih (links.erase lid)).trans Std.ExtTreeMap.size_erase_le

theorem createLinkTurn_size_le (expired : Bool) :
    (s.createLinkTurn c link expired).links.size ≤ s.links.size := by
  unfold createLinkTurn
  split
  · exact Nat.le_refl _
  · split
    · exact Std.ExtTreeMap.size_erase_le
    · exact Nat.le_refl _

theorem dispatch_size_le (h : s.links.size ≤ s.maxLinks) (expired : Bool) (call : Call) :
    (s.dispatch c expired call).links.size ≤ s.maxLinks := by
  cases call with
  | createLink device lockDevice =>
    cases device with
    | error e => exact h
    | ok kind =>
      simp only [dispatch]
      split
      · exact h
      · rename_i hroom
        have hinsert : (s.insertLink c (s.newLink c kind)).links.size ≤ s.maxLinks :=
          Std.ExtTreeMap.size_insert_le.trans (Nat.lt_of_not_le hroom)
        split
        · exact (createLinkTurn_size_le expired).trans hinsert
        · exact hinsert
  | destroyLink lid =>
    simp only [dispatch]
    split
    · exact Std.ExtTreeMap.size_erase_le.trans h
    · exact h
  | deviceLock lid waitlock =>
    simp only [dispatch, deviceLockTurn]
    split
    · split
      · exact h
      · split <;> exact h
    · exact h
  | deviceUnlock lid =>
    simp only [dispatch]
    split
    · split <;> exact h
    · exact h
  | other | ignored => exact h

/-- No step fills the table beyond its maximum. -/
theorem step_size_le (h : s.links.size ≤ s.maxLinks) (hstep : s.step a = some s') :
    s'.links.size ≤ s.maxLinks := by
  cases a with
  | call c call expired =>
    simp only [step] at hstep
    split at hstep
    · obtain rfl := Option.some.inj hstep
      exact dispatch_size_le h expired call
    · cases hstep
  | lockRetry c expired =>
    simp only [step] at hstep
    split at hstep
    · split at hstep
      · obtain rfl := Option.some.inj hstep
        unfold deviceLockTurn
        split <;> exact h
      · cases hstep
    · split at hstep
      · obtain rfl := Option.some.inj hstep
        exact (createLinkTurn_size_le expired).trans h
      · cases hstep
    · cases hstep
  | lockAbort c =>
    simp only [step] at hstep
    split at hstep
    · obtain rfl := Option.some.inj hstep
      exact h
    · cases hstep
  | replied c written =>
    simp only [step] at hstep
    split at hstep
    · obtain rfl := Option.some.inj hstep
      exact h
    · cases hstep
  | hangup c stream =>
    simp only [step] at hstep
    split at hstep
    · split at hstep
      · obtain rfl := Option.some.inj hstep
        exact (removeAll_size_le _ _).trans h
      · cases hstep
      · obtain rfl := Option.some.inj hstep
        exact h
    · cases hstep
  | session sessionId call =>
    obtain rfl := Option.some.inj hstep
    exact h

theorem step_maxLinks (hstep : s.step a = some s') : s'.maxLinks = s.maxLinks := by
  cases step_effect hstep with
  | unchanged | phased | brokeOff | destroyed | unlocked | tornDown | session | created => rfl
  | createdLocking c kind _ _ _ hturn =>
    cases hturn with
    | granted | refused | unwound => rfl
  | locking c link _ _ _ _ hturn =>
    cases hturn with
    | granted | refused | unwound => rfl

theorem size_le_of_reach {maxRecvSize : UInt32} {maxLinks : Nat} {abortPort : UInt16}
    (h : Reach step anyStep { maxRecvSize, maxLinks, abortPort } s) : s.links.size ≤ maxLinks := by
  have hroom : s.maxLinks = maxLinks ∧ s.links.size ≤ s.maxLinks := by
    refine h.invariant (P := fun s => s.maxLinks = maxLinks ∧ s.links.size ≤ s.maxLinks)
      ⟨rfl, Nat.zero_le _⟩ ?_
    rintro s a t ⟨hmax, hsize⟩ - hstep
    rw [step_maxLinks hstep]
    exact ⟨hmax, step_size_le hsize hstep⟩
  exact hroom.1 ▸ hroom.2

/-- The link is in the table and on the list of its connection, and apart from all others. -/
structure Waiting (c : Nat) (link : Link) (s : Shared) : Prop where
  apart : s.Apart link.lid (· ≠ c) (some link) s.conns
  listed : link.lid ∈ (s.conns c).owned

/-- What is to hold once the call has its answer, with the id it was given or would have been. -/
structure Answered (c : Nat) (device : Except ErrorCode DeviceAddr) (lockDevice : Bool) (lid : Int32)
    (resp : CreateLinkResp) (s : Shared) : Prop where
  refused : resp.error ≠ .noError → s.links[lid]? = none ∧ lid ∉ (s.conns c).owned ∧
    ∀ resource, s.locks.holds resource (vxi11Id lid) = false
  created : resp.error = .noError → resp.lid = lid ∧ lid ∈ (s.conns c).owned ∧
    ∃ link, s.links[lid]? = some link ∧ link.lid = lid ∧ device = .ok link.kind ∧ link.creator = c ∧
      (s.locks.holds link.resource link.holder = true ↔ lockDevice = true)

theorem waiting_insertLink {kind : DeviceAddr}
    (h : s.Apart s.nextLid (fun _ => True) none s.conns) :
    (s.insertLink c (s.newLink c kind)).Waiting c (s.newLink c kind) where
  apart := {
    noEmptyTable := h.noEmptyTable
    keyed := insertLink_keyed h.keyed
    unheld := h.unheld
    owned := by
      intro d hd
      simpa [insertLink, setConn, Function.update_of_ne hd, newLink] using h.owned d trivial
    waits := by
      intro d hd
      simpa [insertLink, setConn, Function.update_of_ne hd, newLink] using h.waits d trivial
    found := (insertLink_getElem? _).trans (if_pos rfl)
    kept := fun _ _ => rfl }
  listed := by simp [insertLink, setConn, newLink]

/-- What a turn at the lock comes to. -/
theorem createLinkTurn_cases (hne : s.locks.NoEmptyTable) (c : Nat) (link : Link) (expired : Bool) :
    (∃ response locks, s.locks.tryRequest link.resource link.holder "" = (some response, locks) ∧
      s.createLinkTurn c link expired =
        (s.relock locks (some (link, link.resource, link.holder))).reply c (s.linkCreated link)) ∨
    s.createLinkTurn c link expired = ((s.relock s.locks none).removeLink c link.lid).reply c
      (refuse .deviceLockedByAnotherLink) ∨
    s.createLinkTurn c link expired =
      (s.relock s.locks none).setPhase c (.createLink link s.locks.released) := by
  unfold createLinkTurn
  match hr : s.locks.tryRequest link.resource link.holder "" with
  | (some response, locks) => exact .inl ⟨response, locks, rfl, rfl⟩
  | (none, locks) =>
    obtain rfl := LockRegistry.tryRequest_refused hne hr
    cases expired with
    | true => exact .inr (.inl rfl)
    | false => exact .inr (.inr rfl)

theorem reply_phase (reply : Reply) : ((s.reply c reply).conns c).phase = .replying reply :=
  (setPhase_phase _ _).trans (if_pos rfl)

theorem reply_owned (reply : Reply) (d : Nat) :
    ((s.reply c reply).conns d).owned = (s.conns d).owned := setPhase_owned _ _

/-- A turn that ends the call. -/
theorem Waiting.turn_answered (h : s.Waiting c link) (hcreator : link.creator = c) {expired : Bool}
    {resp : CreateLinkResp}
    (hreply : ((s.createLinkTurn c link expired).conns c).phase = .replying (.createLink resp)) :
    Answered c (.ok link.kind) true link.lid resp (s.createLinkTurn c link expired) := by
  rcases createLinkTurn_cases h.apart.noEmptyTable c link expired with
    ⟨response, locks, hr, heq⟩ | heq | heq
  · rw [heq] at hreply ⊢
    rw [reply_phase] at hreply
    obtain rfl := Reply.createLink.inj (Phase.replying.inj hreply)
    refine ⟨fun herror => absurd rfl herror,
      fun _ => ⟨rfl, ?_, link, h.apart.found, rfl, rfl, hcreator, ?_⟩⟩
    · rw [reply_owned]
      exact h.listed
    · exact iff_of_true ((LockRegistry.granted_holds hr).mpr (.inr ⟨rfl, rfl⟩)) rfl
  · rw [heq] at hreply ⊢
    rw [reply_phase] at hreply
    obtain rfl := Reply.createLink.inj (Phase.replying.inj hreply)
    refine ⟨fun _ => ⟨?_, ?_, h.apart.unheld⟩, nofun⟩
    · exact (removeLink_getElem? (c := c) _ _).trans (if_pos (List.mem_singleton.mpr rfl))
    · rw [reply_owned]
      simp [removeLink, setConn]
  · rw [heq, setPhase_phase, if_pos rfl] at hreply
    cases hreply

/-- A turn that goes on waiting. -/
theorem Waiting.turn_waits (h : s.Waiting c link) {expired : Bool} {other : Link} {snapshot : Nat}
    (hphase : ((s.createLinkTurn c link expired).conns c).phase = .createLink other snapshot) :
    other = link ∧ (s.createLinkTurn c link expired).Waiting c link := by
  rcases createLinkTurn_cases h.apart.noEmptyTable c link expired with
    ⟨response, locks, hr, heq⟩ | heq | heq
  · rw [heq, reply_phase] at hphase
    cases hphase
  · rw [heq, reply_phase] at hphase
    cases hphase
  · rw [heq] at hphase ⊢
    rw [setPhase_phase, if_pos rfl] at hphase
    obtain ⟨rfl, -⟩ := Phase.createLink.inj hphase
    refine ⟨rfl, ⟨⟨h.apart.noEmptyTable, h.apart.keyed, h.apart.unheld, ?_, ?_, h.apart.found,
      fun _ _ => rfl⟩, ?_⟩⟩
    · intro d hd
      rw [setPhase_owned]
      exact h.apart.owned d hd
    · intro d hd
      rw [setPhase_phase, if_neg hd]
      exact h.apart.waits d hd
    · rw [setPhase_owned]
      exact h.listed

/-- While the connection waits for its link's lock, all it does is have another turn. -/
theorem step_own {snapshot : Nat} (hphase : (s.conns c).phase = .createLink link snapshot)
    (hactor : a.actor = some c) (hstep : s.step a = some s') :
    ∃ expired, a = .lockRetry c expired ∧ s' = s.createLinkTurn c link expired := by
  cases a with
  | lockRetry d expired =>
    obtain rfl := Option.some.inj hactor
    simp only [step, hphase] at hstep
    split at hstep
    · exact ⟨expired, rfl, (Option.some.inj hstep).symm⟩
    · cases hstep
  | call d _ _ | lockAbort d | replied d _ | hangup d _ =>
    obtain rfl := Option.some.inj hactor
    simp only [step, hphase] at hstep
    cases hstep
  | session => cases hactor

/-- The connection waits for the lock of a link it creates, and the call of this step does not name the
id. -/
def waitsUnnamed (c : Nat) (lid : Int32) (s : Shared) (a : Action) : Prop :=
  (∃ link snapshot, (s.conns c).phase = .createLink link snapshot) ∧ a.names ≠ some lid

/-- A `create_link` on connection `c` that begins in `s₀`, whatever the others do meanwhile without
naming the id it is given, and its answer. -/
inductive Creates (c : Nat) (device : Except ErrorCode DeviceAddr) (lockDevice : Bool) (s₀ : Shared) :
    CreateLinkResp → Shared → Prop
  | atOnce {expired : Bool} {resp : CreateLinkResp} {s : Shared} :
      s₀.step (.call c (.createLink device lockDevice) expired) = some s →
      (s.conns c).phase = .replying (.createLink resp) → Creates c device lockDevice s₀ resp s
  | afterWait {expired expired' : Bool} {resp : CreateLinkResp} {s₁ s s' : Shared} {link : Link}
      {snapshot : Nat} : s₀.step (.call c (.createLink device lockDevice) expired) = some s₁ →
      Reach step (waitsUnnamed c s₀.nextLid) s₁ s → (s.conns c).phase = .createLink link snapshot →
      s.step (.lockRetry c expired') = some s' → (s'.conns c).phase = .replying (.createLink resp) →
      Creates c device lockDevice s₀ resp s'

/-- The first step of the call. -/
theorem begun_cases {name : List Char} {defaultPad : UInt8} {lockDevice expired : Bool}
    (hstep : s.step (.call c (.createLink (parseDeviceName name defaultPad) lockDevice) expired) =
      some s') :
    (∃ e, e ≠ .noError ∧ s' = s.reply c (refuse e)) ∨
    ∃ kind, parseDeviceName name defaultPad = .ok kind ∧ s.links.size < s.maxLinks ∧
      s' = if lockDevice then
          (s.insertLink c (s.newLink c kind)).createLinkTurn c (s.newLink c kind) expired
        else (s.insertLink c (s.newLink c kind)).reply c (s.linkCreated (s.newLink c kind)) := by
  simp only [step] at hstep
  split at hstep
  · obtain rfl := Option.some.inj hstep
    cases hname : parseDeviceName name defaultPad with
    | error e => exact .inl ⟨e, parseDeviceName_error hname, rfl⟩
    | ok kind =>
      simp only [dispatch]
      split
      · exact .inl ⟨.outOfResources, by simp, rfl⟩
      · exact .inr ⟨kind, rfl, Nat.lt_of_not_le ‹_›, rfl⟩
  · cases hstep

/-- As long as the call waits, its link does. -/
theorem waiting_of_reach {n : Nat} {s₁ : Shared} (hnumbered : s₁.nextLid = lidAt s₁.created)
    (hn : n < s₁.created) (hlid : link.lid = lidAt n)
    (hwaits : ∀ other snapshot, (s₁.conns c).phase = .createLink other snapshot →
      other = link ∧ s₁.Waiting c link)
    (h : Reach step (waitsUnnamed c link.lid) s₁ s) (hround : s.created ≤ 2 ^ 32) :
    ∀ other snapshot, (s.conns c).phase = .createLink other snapshot →
      other = link ∧ s.Waiting c link := by
  have hinv : (s.nextLid = lidAt s.created ∧ n < s.created) ∧ (s.created ≤ 2 ^ 32 →
      ∀ other snapshot, (s.conns c).phase = .createLink other snapshot →
        other = link ∧ s.Waiting c link) := by
    refine h.invariant (P := fun s => (s.nextLid = lidAt s.created ∧ n < s.created) ∧
      (s.created ≤ 2 ^ 32 → ∀ other snapshot, (s.conns c).phase = .createLink other snapshot →
        other = link ∧ s.Waiting c link)) ⟨⟨hnumbered, hn⟩, fun _ => hwaits⟩ ?_
    rintro s a t ⟨⟨hnumbered, hn⟩, hwaits⟩ ⟨⟨other, snapshot, hphase⟩, hnames⟩ hstep
    obtain ⟨hnumbered', hle⟩ := step_numbered hnumbered hstep
    refine ⟨⟨hnumbered', hn.trans_le hle⟩, fun hround other' snapshot' hphase' => ?_⟩
    obtain ⟨rfl, hwaiting⟩ := hwaits (hle.trans hround) other snapshot hphase
    by_cases hactor : a.actor = some c
    · obtain ⟨expired, -, rfl⟩ := step_own hphase hactor hstep
      exact hwaiting.turn_waits hphase'
    · have hkept := hwaiting.apart.step (fun d hd hdc => hactor (hdc ▸ hd))
        (fun hname => absurd hname hnames)
        (fun hmade => by rw [hnumbered, hlid]; exact (lidAt_ne hn (by omega)).symm) hstep
      have hconn : t.conns c = s.conns c := hkept.kept c fun hne => hne rfl
      rw [hconn, hphase] at hphase'
      refine ⟨(Phase.createLink.inj hphase').1.symm, { hkept with kept := fun _ _ => rfl }, ?_⟩
      rw [hconn]
      exact hwaiting.listed
  exact hinv.2 hround

/-- A call that has its answer does not wait. -/
theorem not_waiting_of_reach {s₁ : Shared}
    (hfirst : ∀ other snapshot, (s₁.conns c).phase ≠ .createLink other snapshot)
    (h : Reach step (waitsUnnamed c lid) s₁ s) :
    ∀ other snapshot, (s.conns c).phase ≠ .createLink other snapshot := by
  refine h.invariant (P := fun s => ∀ other snapshot, (s.conns c).phase ≠ .createLink other snapshot)
    hfirst ?_
  rintro s a t hnone ⟨⟨other, snapshot, hphase⟩, -⟩ -
  exact absurd hphase (hnone other snapshot)

/-- A link that is made without its lock. -/
theorem Waiting.unlocked_answered {kind : DeviceAddr} {resp : CreateLinkResp}
    (h : (s.insertLink c (s.newLink c kind)).Waiting c (s.newLink c kind))
    (hreply : (((s.insertLink c (s.newLink c kind)).reply c
      (s.linkCreated (s.newLink c kind))).conns c).phase = .replying (.createLink resp)) :
    Answered c (.ok kind) false s.nextLid resp ((s.insertLink c (s.newLink c kind)).reply c
      (s.linkCreated (s.newLink c kind))) := by
  rw [reply_phase] at hreply
  obtain rfl := Reply.createLink.inj (Phase.replying.inj hreply)
  refine ⟨fun herror => absurd rfl herror,
    fun _ => ⟨rfl, ?_, s.newLink c kind, h.apart.found, rfl, rfl, rfl, ?_⟩⟩
  · rw [reply_owned]
    exact h.listed
  · exact iff_of_false (Bool.eq_false_iff.mp (h.apart.unheld _)) nofun

/-- A call that is refused before it has a link. -/
theorem Apart.refused_answered (h : s.Apart lid (fun _ => True) none s.conns) {e : ErrorCode}
    {device : Except ErrorCode DeviceAddr} {lockDevice : Bool} {resp : CreateLinkResp}
    (he : e ≠ .noError)
    (hreply : ((s.reply c (refuse e)).conns c).phase = .replying (.createLink resp)) :
    Answered c device lockDevice lid resp (s.reply c (refuse e)) := by
  rw [reply_phase] at hreply
  obtain rfl := Reply.createLink.inj (Phase.replying.inj hreply)
  refine ⟨fun _ => ⟨h.found, ?_, h.unheld⟩, fun hok => absurd hok he⟩
  rw [reply_owned]
  exact h.owned c trivial

/-- The table never holds more links than configured. And of a `create_link` that answers an error
nothing is left; one that answers success has its link in the table and on the connection's list, with
the lock if and only if that was asked for: as long as the count of ids has not come round. -/
theorem create_link_all_or_nothing {maxRecvSize : UInt32} {maxLinks : Nat} {abortPort : UInt16}
    (h : Reach step anyStep { maxRecvSize, maxLinks, abortPort } s) :
    s.links.size ≤ maxLinks ∧
    ∀ (c : Nat) (name : List Char) (defaultPad : UInt8) (lockDevice : Bool) (resp : CreateLinkResp)
      (s' : Shared), Creates c (parseDeviceName name defaultPad) lockDevice s resp s' →
      s.created < 2 ^ 32 → s'.created ≤ 2 ^ 32 →
      Answered c (parseDeviceName name defaultPad) lockDevice s.nextLid resp s' := by
  refine ⟨size_le_of_reach h, fun c name defaultPad lockDevice resp s' hcreates hfresh hround => ?_⟩
  obtain ⟨hnumbered, hapart⟩ := apart_of_reach h
  have hid := hapart s.created (Nat.le_refl _) hfresh
  rw [← hnumbered] at hid
  cases hcreates with
  | atOnce hstep hreply =>
    obtain ⟨e, he, rfl⟩ | ⟨kind, hname, -, rfl⟩ := begun_cases hstep
    · exact hid.refused_answered he hreply
    · rw [hname]
      cases lockDevice with
      | true => exact (waiting_insertLink hid).turn_answered rfl hreply
      | false => exact (waiting_insertLink hid).unlocked_answered hreply
  | @afterWait expired expired' _ s₁ t _ link snapshot hstep hreach hphase hretry hreply =>
    obtain ⟨_, -, rfl⟩ := step_own hphase rfl hretry
    rw [createLinkTurn_created] at hround
    obtain ⟨hnumbered₁, -⟩ := step_numbered hnumbered hstep
    have hanswers : ∀ reply, (s₁.conns c).phase ≠ .replying reply := by
      intro reply hphase₁
      refine not_waiting_of_reach (fun other snapshot hcreate => ?_) hreach link snapshot hphase
      rw [hphase₁] at hcreate
      cases hcreate
    obtain ⟨e, he, rfl⟩ | ⟨kind, hname, -, hs₁⟩ := begun_cases hstep
    · exact absurd (reply_phase _) (hanswers _)
    · cases lockDevice with
      | false =>
        obtain rfl := hs₁
        exact absurd (reply_phase _) (hanswers _)
      | true =>
        obtain rfl : s₁ = (s.insertLink c (s.newLink c kind)).createLinkTurn c (s.newLink c kind)
          expired := hs₁
        have hmade : s.created < ((s.insertLink c (s.newLink c kind)).createLinkTurn c
            (s.newLink c kind) expired).created := by
          rw [createLinkTurn_created]
          exact Nat.lt_succ_self _
        obtain ⟨rfl, hwaiting⟩ := waiting_of_reach hnumbered₁ hmade hnumbered
          (fun other snapshot => (waiting_insertLink hid).turn_waits) hreach hround link snapshot hphase
        rw [hname]
        exact hwaiting.turn_answered rfl hreply

theorem parseDeviceName_inst0 (defaultPad : UInt8) :
    parseDeviceName "inst0".toList defaultPad = .ok (.pad defaultPad) := rfl

/-- A first link with its lock. -/
theorem create_link_all_or_nothing_first :
    ∃ resp s, resp.error = ErrorCode.noError ∧
      Creates 0 (parseDeviceName "inst0".toList 5) true {} resp s ∧
      Answered 0 (parseDeviceName "inst0".toList 5) true 1 resp s := by
  have hcreates : Creates 0 (parseDeviceName "inst0".toList 5) true {} ⟨.noError, 1, 0, 65536⟩ _ :=
    @Creates.atOnce 0 _ true {} false _ _ rfl rfl
  exact ⟨_, _, rfl, hcreates,
    (create_link_all_or_nothing Reach.refl).2 0 _ 5 true _ _ hcreates (by decide) (by decide)⟩

/-- A link made and destroyed again leaves the table as it was, and takes an id. -/
theorem exists_reach_next (hphase : (s.conns 1).phase = .reading) (hroom : s.links.size < s.maxLinks)
    (hnew : s.links[s.nextLid]? = none) :
    ∃ t, Reach step anyStep s t ∧ (t.conns 1).phase = .reading ∧ t.links = s.links ∧
      t.maxLinks = s.maxLinks ∧ t.nextLid = s.nextLid + 1 ∧
      ∀ resource holder, holder ≠ vxi11Id s.nextLid → s.locks.holds resource holder = true →
        t.locks.holds resource holder = true := by
  have hreplied : ∀ (s : Shared) reply, (s.reply 1 reply).step (.replied 1 true) =
      some ((s.reply 1 reply).setPhase 1 .reading) := by
    intro s reply
    simp only [step, reply_phase]
    rfl
  let link := s.newLink 1 (.pad 6)
  let made := ((s.insertLink 1 link).reply 1 (s.linkCreated link)).setPhase 1 .reading
  have hmade : Reach step anyStep s made := by
    refine (Reach.refl.tail (a := .call 1 (.createLink (.ok (.pad 6)) false) false) trivial ?_).tail
      trivial (hreplied (s.insertLink 1 link) (s.linkCreated link))
    simp only [step, hphase, dispatch, if_neg (Nat.not_le.mpr hroom)]
    rfl
  have hfound : made.links[s.nextLid]? = some link :=
    (insertLink_getElem? (c := 1) _).trans (if_pos rfl)
  let gone := (made.removeLink 1 s.nextLid).relock (made.locks.releaseAll link.holder) none
  have hgone : made.step (.call 1 (.destroyLink s.nextLid) false) =
      some (gone.reply 1 (.deviceError .noError)) := by
    have hreading : (made.conns 1).phase = .reading := (setPhase_phase _ _).trans (if_pos rfl)
    simp only [step, hreading, dispatch, hfound]
    rfl
  have hrun : Reach step anyStep s ((gone.reply 1 (.deviceError .noError)).setPhase 1 .reading) :=
    (hmade.tail trivial hgone).tail trivial (hreplied gone (.deviceError .noError))
  refine ⟨_, hrun, (setPhase_phase _ _).trans (if_pos rfl), ?_, ?_, ?_, ?_⟩
  · refine Std.ExtTreeMap.ext_getElem? fun lid => ?_
    refine (removeLink_getElem? (c := 1) _ _).trans ?_
    split
    · rename_i heq
      rw [List.mem_singleton.mp heq, hnew]
    · rename_i hother
      refine (insertLink_getElem? (c := 1) _).trans (if_neg fun heq => hother ?_)
      exact List.mem_singleton.mpr heq.symm
  · simp only [gone, made, setPhase, reply, relock, removeLink, insertLink, setConn]
  · simp only [gone, made, setPhase, reply, relock, removeLink, insertLink, setConn]
  · intro resource holder hholder hheld
    exact LockRegistry.releaseAll_holds.mpr ⟨hheld, hholder⟩

/-- Once the first connection has a locked link, a second one makes and destroys as many as it likes. -/
theorem exists_reach_count (k : Nat) (hk : k < 2 ^ 32) :
    ∃ s : Shared, Reach step anyStep {} s ∧ (s.conns 1).phase = .reading ∧
      s.links = (∅ : Std.ExtTreeMap Int32 Link).insert 1 ⟨1, .pad 5, 0, 0⟩ ∧ s.maxLinks = 64 ∧
      s.nextLid = lidAt (k + 1) ∧ s.locks.holds "gpib5" (vxi11Id 1) = true := by
  induction k with
  | zero =>
    refine ⟨_, Reach.refl.tail (a := .call 0 (.createLink (.ok (.pad 5)) true) false) trivial rfl,
      rfl, rfl, rfl, rfl, by decide +kernel⟩
  | succ k ih =>
    obtain ⟨s, hreach, hphase, hlinks, hmax, hnext, hheld⟩ := ih (by omega)
    have hne : (1 : Int32) ≠ s.nextLid := hnext ▸ lidAt_ne (Nat.succ_pos k) hk
    have hroom : s.links.size < s.maxLinks := by
      rw [hlinks, hmax]
      decide +kernel
    have hnew : s.links[s.nextLid]? = none := by
      rw [hlinks, Std.ExtTreeMap.getElem?_insert, if_neg]
      · simp
      · rwa [Std.LawfulEqCmp.compare_eq_iff_eq]
    obtain ⟨t, hrun, hphase', hlinks', hmax', hnext', hheld'⟩ := exists_reach_next hphase hroom hnew
    refine ⟨t, hreach.trans hrun, hphase', hlinks'.trans hlinks, hmax'.trans hmax, ?_, ?_⟩
    · rw [hnext', hnext, lidAt_succ (k + 1)]
    · exact hheld' _ _ (fun heq => hne (vxi11Id_injective heq)) hheld

/-- When the ids have come round, a link made without a lock finds itself with that of the first one. -/
theorem reused_id_holds_lock :
    ∃ s resp s' link, Reach step anyStep {} s ∧
      Creates 1 (parseDeviceName "inst0".toList 5) false s resp s' ∧ resp.error = .noError ∧
      s'.links[resp.lid]? = some link ∧ s'.locks.holds link.resource link.holder = true := by
  obtain ⟨s, hreach, hphase, hlinks, hmax, hnext, hheld⟩ := exists_reach_count (2 ^ 32 - 1) (by decide)
  have hround : s.nextLid = 1 := hnext
  have hroom : s.links.size < s.maxLinks := by
    rw [hlinks, hmax]
    decide +kernel
  have hstep : s.step (.call 1 (.createLink (parseDeviceName "inst0".toList 5) false) false) =
      some ((s.insertLink 1 (s.newLink 1 (.pad 5))).reply 1 (s.linkCreated (s.newLink 1 (.pad 5)))) := by
    rw [parseDeviceName_inst0]
    simp only [step, hphase, dispatch, if_neg (Nat.not_le.mpr hroom)]
    rfl
  refine ⟨s, _, _, s.newLink 1 (.pad 5), hreach, .atOnce hstep (reply_phase _), rfl,
    (insertLink_getElem? (c := 1) _).trans (if_pos rfl), ?_⟩
  have hholder : (s.newLink 1 (.pad 5)).holder = vxi11Id 1 := congrArg vxi11Id hround
  have hresource : (s.newLink 1 (.pad 5)).resource = "gpib5" := by
    have hkey : resourceKey 5 = "gpib5" := by decide
    exact hkey
  rw [hholder, hresource]
  exact hheld

end Shared
end Ugpibd.Vxi11
