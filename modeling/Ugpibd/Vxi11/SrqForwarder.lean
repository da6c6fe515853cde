import Mathlib.Data.Finset.Basic
import Ugpibd.Library.Runs

/-! The service-request forwarder of a VXI-11 connection. It is told when the wired-OR line rises and
then polls the instruments of the enabled links once each; what asks while the line is up is not told
to it. -/
namespace Ugpibd.Vxi11
open Library

/-- A link of the connection as the forwarder sees it. An interface link has no instrument. -/
structure SrqLink where
  lid : Int32
  pad : Option UInt8
  enabled : Bool := false
  deriving DecidableEq, Repr

/-- Where the forwarder is: reading the line's level, subscribing to its edges, waiting for one,
with so many links of a pass to go, or gone. -/
inductive ForwarderPhase
  | starting
  | subscribing (asserted : Bool)
  | waiting
  | polling (targets : List SrqLink) (polled : List UInt8)
  | stopped
  deriving DecidableEq, Repr

def ForwarderPhase.subscribed : ForwarderPhase → Bool
  | .waiting | .polling .. => true
  | _ => false

/-- Will the forwarder still ask this instrument before it waits again? -/
def ForwarderPhase.willPoll (pad : UInt8) : ForwarderPhase → Bool
  | .starting | .stopped => true
  | .subscribing asserted => asserted
  | .waiting => false
  | .polling targets polled => !polled.contains pad && targets.any (·.pad == some pad)

/-- The links of one connection, the instruments on the bus that request service, and the forwarder
with the notifications queued for it. -/
structure SrqWatch where
  links : List SrqLink := []
  requesting : Finset UInt8 := ∅
  phase : ForwarderPhase := .starting
  queued : Nat := 0
  deriving DecidableEq

/-- An instrument's request and its end, by a poll of somebody else or on its own; calls on the core
channel; and the forwarder's own steps, which may fail. A receiver that lags skips notifications. -/
inductive SrqAction
  | assert (pad : UInt8)
  | release (pad : UInt8)
  | createLink (lid : Int32) (pad : Option UInt8)
  | destroyLink (lid : Int32)
  | enableSrq (lid : Int32) (enable : Bool)
  | createIntrChan
  | levelRead (ok : Bool)
  | subscribe (available : Bool)
  | receive (skipped : Nat)
  | poll (ok : Bool)
  | shutdown

namespace SrqWatch

/-- The line is the OR of all requests. -/
def line (s : SrqWatch) : Bool := s.requesting ≠ ∅

/-- The links a pass is for. -/
def targets (s : SrqWatch) : List SrqLink := s.links.filter (·.enabled)

/-- An enabled link of the connection is on this instrument. -/
def watched (s : SrqWatch) (pad : UInt8) : Prop := ∃ link ∈ s.targets, link.pad = some pad

/-- The head of the pass: with no link left the forwarder waits again. -/
def pass (s : SrqWatch) (targets : List SrqLink) (polled : List UInt8) : SrqWatch :=
  { s with phase := if targets.isEmpty then .waiting else .polling targets polled }

def step (s : SrqWatch) : SrqAction → Option SrqWatch
  | .assert pad =>
    if pad ∈ s.requesting then none
    else some { s with
      requesting := insert pad s.requesting
      -- only a rise of the line is told
      queued := if s.phase.subscribed && !s.line then s.queued + 1 else s.queued }
  | .release pad => some { s with requesting := s.requesting.erase pad }
  | .createLink lid pad => some { s with links := s.links ++ [{ lid, pad }] }
  | .destroyLink lid => some { s with links := s.links.filter (·.lid != lid) }
  | .enableSrq lid enable => some { s with
      links := s.links.map fun link => if link.lid = lid then { link with enabled := enable } else link }
  | .createIntrChan => match s.phase with
    | .stopped => some { s with phase := .starting }
    | _ => none
  | .levelRead ok => match s.phase with
    | .starting => some { s with phase := .subscribing (ok && s.line) }
    | _ => none
  | .subscribe available => match s.phase with
    | .subscribing asserted =>
      if !available then some { s with phase := .stopped }
      else if asserted then some (s.pass s.targets [])
      else some { s with phase := .waiting }
    | _ => none
  | .receive skipped => match s.phase with
    | .waiting =>
      if skipped < s.queued then
        some ({ s with queued := s.queued - (skipped + 1) }.pass s.targets [])
      else none
    | _ => none
  | .poll ok => match s.phase with
    | .polling (link :: rest) polled => match link.pad with
      | none => some (s.pass rest polled)
      | some pad =>
        if pad ∈ polled then some (s.pass rest polled)
        else some ({ s with
          requesting := if ok then s.requesting.erase pad else s.requesting }.pass rest (pad :: polled))
    | _ => none
  | .shutdown => match s.phase with
    | .waiting => some { s with phase := .stopped, queued := 0 }
    | _ => none

/-- The forwarder will come to look at this instrument: it has been told, or is about to poll it. -/
def seen (s : SrqWatch) (pad : UInt8) : Prop := 0 < s.queued ∨ s.phase.willPoll pad = true

/-- A request of a watched instrument is made only where it raises the line for the forwarder, or
where it will be seen anyway, and so is a link enabled on an instrument that requests service; level
reads and polls succeed where they would find a request. -/
def noticed (s : SrqWatch) : SrqAction → Prop
  | .assert pad => s.watched pad →
      (s.phase.subscribed = true ∧ s.line = false) ∨ s.seen pad
  | .enableSrq lid true => ∀ link ∈ s.links, link.lid = lid → ∀ pad, link.pad = some pad →
      pad ∈ s.requesting → s.seen pad
  | .levelRead false => ∀ pad, s.watched pad → pad ∉ s.requesting
  | .poll false => ∀ link rest polled pad, s.phase = .polling (link :: rest) polled →
      link.pad = some pad → pad ∉ polled → s.watched pad → pad ∈ s.requesting → 0 < s.queued
  | _ => True

/-- Every request of a watched instrument will be seen, and notifications are for subscribers. -/
structure Covered (s : SrqWatch) : Prop where
  seen : ∀ pad, s.watched pad → pad ∈ s.requesting → s.seen pad
  queue : s.phase.subscribed = false → s.queued = 0

variable {s s' : SrqWatch} {a : SrqAction} {pad : UInt8} {rest : List SrqLink}
  {polled : List UInt8} {link : SrqLink}

/-- The pass gets to every instrument it has a link on and has not polled. -/
theorem pass_seen (htarget : ∃ link ∈ rest, link.pad = some pad) (hfresh : pad ∉ polled) :
    (s.pass rest polled).seen pad := by
  obtain ⟨link, hmem, hpad⟩ := htarget
  have hne : rest.isEmpty = false := by
    rw [List.isEmpty_eq_false_iff]
    exact List.ne_nil_of_mem hmem
  refine .inr ?_
  simp only [pass, hne, Bool.false_eq_true, if_false, ForwarderPhase.willPoll, Bool.and_eq_true,
    Bool.not_eq_true', List.contains_eq_mem, decide_eq_false_iff_not, List.any_eq_true]
  exact ⟨hfresh, link, hmem, beq_iff_eq.mpr hpad⟩

theorem pass_subscribed : (s.pass rest polled).phase.subscribed = true := by
  unfold pass
  dsimp only
  split <;> rfl

/-- What a pass in progress will still see, it will see from the links left or has been told of. -/
theorem seen_of_polling (hphase : s.phase = .polling rest polled) (h : s.seen pad) :
    0 < s.queued ∨ (pad ∉ polled ∧ ∃ link ∈ rest, link.pad = some pad) := by
  rcases h with hqueued | hpoll
  · exact .inl hqueued
  · rw [hphase] at hpoll
    simp only [ForwarderPhase.willPoll, Bool.and_eq_true, Bool.not_eq_true', List.contains_eq_mem,
      decide_eq_false_iff_not, List.any_eq_true, beq_iff_eq] at hpoll
    exact .inr hpoll

/-- A forwarder in or after a pass is subscribed, so that only what it will see is left to say. -/
private theorem pass_covered
    (hseen : ∀ pad, s.watched pad → pad ∈ s.requesting → (s.pass rest polled).seen pad) :
    Covered (s.pass rest polled) where
  seen := hseen
  queue := by
    rw [pass_subscribed]
    nofun

/-- A pass over the enabled links covers every request there is. -/
private theorem pass_targets_covered (queued : Nat) :
    Covered ({ s with queued }.pass s.targets []) :=
  pass_covered fun _ hwatched _ => pass_seen hwatched List.not_mem_nil

/-- The links may change as long as no request becomes watched that is not seen. -/
private theorem Covered.relink {links : List SrqLink} (h : s.Covered)
    (hnew : ∀ pad, watched { s with links } pad → pad ∈ s.requesting → s.watched pad ∨ s.seen pad) :
    Covered { s with links } where
  seen := by
    intro pad hwatched hrequesting
    rcases hnew pad hwatched hrequesting with hold | hseen
    · exact h.seen pad hold hrequesting
    · exact hseen
  queue := h.queue

/-- No link is enabled that was not there before. -/
private theorem Covered.relink_of_enabled {links : List SrqLink} (h : s.Covered)
    (hold : ∀ link ∈ links, link.enabled = true → link ∈ s.links) : Covered { s with links } := by
  refine h.relink fun pad hwatched _ => .inl ?_
  obtain ⟨link, hmem, hpad⟩ := hwatched
  obtain ⟨hmem, henabled⟩ := List.mem_filter.mp hmem
  exact ⟨link, List.mem_filter.mpr ⟨hold link hmem henabled, henabled⟩, hpad⟩

private theorem assert_covered (h : s.Covered) (hg : s.noticed (.assert pad)) :
    Covered { s with
      requesting := insert pad s.requesting
      queued := if s.phase.subscribed && !s.line then s.queued + 1 else s.queued } where
  seen := by
    intro other hwatched hrequesting
    have hmore : s.seen other → seen { s with
        requesting := insert pad s.requesting
        queued := if s.phase.subscribed && !s.line then s.queued + 1 else s.queued } other := by
      rintro (hqueued | hpoll)
      · refine .inl ?_
        dsimp only
        split <;> omega
      · exact .inr hpoll
    rcases Finset.mem_insert.mp hrequesting with rfl | hrequesting
    · rcases hg hwatched with ⟨hsub, hline⟩ | hseen
      · refine .inl ?_
        simp [hsub, hline]
      · exact hmore hseen
    · exact hmore (h.seen other hwatched hrequesting)
  queue := by
    intro hsub
    dsimp only at hsub ⊢
    rw [hsub]
    exact h.queue hsub

private theorem poll_covered {ok : Bool} (h : s.Covered) (hg : s.noticed (.poll ok))
    (hphase : s.phase = .polling (link :: rest) polled) (hpad : link.pad = some pad)
    (hfresh : pad ∉ polled) :
    Covered ({ s with
      requesting := if ok then s.requesting.erase pad else s.requesting }.pass rest
        (pad :: polled)) := by
  refine pass_covered fun other hwatched hrequesting => ?_
  have hbefore : other ∈ s.requesting := by
    cases ok with
    | true => exact Finset.mem_of_mem_erase hrequesting
    | false => exact hrequesting
  by_cases hother : other = pad
  · subst hother
    cases ok with
    | true => exact absurd rfl (Finset.ne_of_mem_erase hrequesting)
    | false => exact .inl (hg link rest polled other hphase hpad hfresh hwatched hbefore)
  · rcases seen_of_polling hphase (h.seen other hwatched hbefore) with
      hqueued | ⟨hnot, next, hmem, hnext⟩
    · exact .inl hqueued
    · rcases List.mem_cons.mp hmem with rfl | hmem
      · exact absurd (Option.some.inj (hnext.symm.trans hpad)) hother
      · exact pass_seen ⟨next, hmem, hnext⟩ (by simp [hother, hnot])

/-- A link that is not polled again leaves the requests the pass is still for. -/
private theorem skip_covered (h : s.Covered) (hphase : s.phase = .polling (link :: rest) polled)
    (hskip : ∀ pad, link.pad = some pad → pad ∈ polled) : Covered (s.pass rest polled) := by
  refine pass_covered fun pad hwatched hrequesting => ?_
  rcases seen_of_polling hphase (h.seen pad hwatched hrequesting) with
    hqueued | ⟨hnot, next, hmem, hnext⟩
  · exact .inl hqueued
  · rcases List.mem_cons.mp hmem with rfl | hmem
    · exact absurd (hskip pad hnext) hnot
    · exact pass_seen ⟨next, hmem, hnext⟩ hnot

theorem watched_enableSrq {lid : Int32} {enable : Bool}
    (h : watched { s with
      links := s.links.map fun link => if link.lid = lid then { link with enabled := enable } else link }
      pad) :
    s.watched pad ∨ (enable = true ∧ ∃ link ∈ s.links, link.lid = lid ∧ link.pad = some pad) := by
  obtain ⟨link, hmem, hpad⟩ := h
  obtain ⟨hmem, henabled⟩ := List.mem_filter.mp hmem
  obtain ⟨old, hold, rfl⟩ := List.mem_map.mp hmem
  split at hpad
  · rename_i hlid
    rw [if_pos hlid] at henabled
    exact .inr ⟨henabled, old, hold, hlid, hpad⟩
  · rename_i hlid
    rw [if_neg hlid] at henabled
    exact .inl ⟨old, List.mem_filter.mpr ⟨hold, henabled⟩, hpad⟩

private theorem enableSrq_covered {lid : Int32} {enable : Bool} (h : s.Covered)
    (hg : s.noticed (.enableSrq lid enable)) :
    Covered { s with
      links := s.links.map fun link =>
        if link.lid = lid then { link with enabled := enable } else link } := by
  refine h.relink fun pad hwatched hrequesting => ?_
  rcases watched_enableSrq hwatched with hold | ⟨rfl, link, hmem, hlid, hpad⟩
  · exact .inl hold
  · exact .inr (hg link hmem hlid pad hpad hrequesting)

theorem step_covered (h : s.Covered) (hg : s.noticed a) (hstep : s.step a = some s') :
    s'.Covered := by
  cases a with
  | assert pad =>
    simp only [step] at hstep
    split at hstep
    · cases hstep
    · obtain rfl := Option.some.inj hstep
      exact assert_covered h hg
  | release pad =>
    obtain rfl := Option.some.inj hstep
    exact ⟨fun other hwatched hmem => h.seen other hwatched (Finset.mem_of_mem_erase hmem), h.queue⟩
  | createLink lid pad =>
    obtain rfl := Option.some.inj hstep
    refine h.relink_of_enabled fun link hmem henabled => ?_
    rcases List.mem_append.mp hmem with hmem | hmem
    · exact hmem
    · obtain rfl := List.mem_singleton.mp hmem
      cases henabled
  | destroyLink lid =>
    obtain rfl := Option.some.inj hstep
    exact h.relink_of_enabled fun link hmem _ => List.mem_of_mem_filter hmem
  | enableSrq lid enable =>
    obtain rfl := Option.some.inj hstep
    exact enableSrq_covered h hg
  | createIntrChan =>
    simp only [step] at hstep
    split at hstep
    · rename_i hphase
      obtain rfl := Option.some.inj hstep
      exact ⟨fun _ _ _ => .inr rfl, fun _ => h.queue (by rw [hphase]; rfl)⟩
    · cases hstep
  | levelRead ok =>
    simp only [step] at hstep
    split at hstep
    · rename_i hphase
      obtain rfl := Option.some.inj hstep
      refine ⟨fun pad hwatched hrequesting => .inr ?_, fun _ => h.queue (by rw [hphase]; rfl)⟩
      cases ok with
      | true => exact decide_eq_true (Finset.ne_empty_of_mem hrequesting)
      | false => exact absurd hrequesting (hg pad hwatched)
    · cases hstep
  | subscribe available =>
    simp only [step] at hstep
    split at hstep
    · rename_i asserted hphase
      have hqueue : s.queued = 0 := h.queue (by rw [hphase]; rfl)
      split at hstep
      · obtain rfl := Option.some.inj hstep
        exact ⟨fun _ _ _ => .inr rfl, fun _ => hqueue⟩
      · split at hstep
        · obtain rfl := Option.some.inj hstep
          exact pass_targets_covered s.queued
        · rename_i hlow
          obtain rfl := Option.some.inj hstep
          refine ⟨fun pad hwatched hrequesting => ?_, nofun⟩
          -- nothing was asserted when the level was read, so nothing watched asks
          rcases h.seen pad hwatched hrequesting with hqueued | hpoll
          · omega
          · rw [hphase] at hpoll
            exact absurd hpoll hlow
    · cases hstep
  | receive skipped =>
    simp only [step] at hstep
    split at hstep
    · split at hstep
      · obtain rfl := Option.some.inj hstep
        exact pass_targets_covered _
      · cases hstep
    · cases hstep
  | poll ok =>
    simp only [step] at hstep
    split at hstep
    · rename_i link rest polled hphase
      split at hstep
      · rename_i hpad
        obtain rfl := Option.some.inj hstep
        exact skip_covered h hphase fun pad hsome => absurd (hpad.symm.trans hsome) nofun
      · rename_i pad hpad
        split at hstep
        · rename_i hpolled
          obtain rfl := Option.some.inj hstep
          refine skip_covered h hphase fun other hsome => ?_
          obtain rfl := Option.some.inj (hpad.symm.trans hsome)
          exact hpolled
        · rename_i hfresh
          obtain rfl := Option.some.inj hstep
          exact poll_covered h hg hphase hpad hfresh
    · cases hstep
  | shutdown =>
    simp only [step] at hstep
    split at hstep
    · obtain rfl := Option.some.inj hstep
      exact ⟨fun _ _ _ => .inr rfl, fun _ => rfl⟩
    · cases hstep

/-- In every run in which requests of watched instruments are made only where they raise the line or
are seen anyway, a forwarder that waits with nothing queued leaves no instrument of an enabled link
asking for service. -/
theorem waiting_forwarder_misses_nothing {links : List SrqLink} {requesting : Finset UInt8}
    (h : Reach step noticed { links, requesting } s) (hwaiting : s.phase = .waiting)
    (hqueued : s.queued = 0) :
    ∀ link ∈ s.links, link.enabled = true → ∀ pad, link.pad = some pad → pad ∉ s.requesting := by
  have hcovered : s.Covered := Reach.invariant h ⟨fun _ _ _ => .inr rfl, fun _ => rfl⟩
    fun _ _ _ hcovered hg hstep => step_covered hcovered hg hstep
  intro link hmem henabled pad hpad hrequesting
  rcases hcovered.seen pad ⟨link, List.mem_filter.mpr ⟨hmem, henabled⟩, hpad⟩ hrequesting with
    htold | hpoll
  · omega
  · rw [hwaiting] at hpoll
    cases hpoll

/-- Two instruments with an enabled link each. -/
private def twoLinks : List SrqLink := [⟨1, some 5, true⟩, ⟨2, some 7, true⟩]

/-- Both ask before the pass, and the pass finds both. -/
theorem both_requests_found : ∃ s, Reach step noticed { links := twoLinks, requesting := ∅ } s ∧
    s.phase = .waiting ∧ s.queued = 0 ∧ 5 ∉ s.requesting := by
  have hwaiting : Reach step noticed { links := twoLinks, requesting := ∅ } _ :=
    (Reach.refl.tail (a := .levelRead true) trivial rfl).tail (a := .subscribe true) trivial rfl
  have hasked := (hwaiting.tail (a := .assert 5) (by exact fun _ => .inl ⟨rfl, rfl⟩)
    rfl).tail (a := .assert 7) (by exact fun _ => .inr (.inl (by decide))) rfl
  have hpassed := ((hasked.tail (a := .receive 0) (by trivial) rfl).tail (a := .poll true)
    (by trivial) rfl).tail (a := .poll true) (by trivial) rfl
  exact ⟨_, hpassed, rfl, rfl,
    waiting_forwarder_misses_nothing hpassed rfl rfl ⟨1, some 5, true⟩ List.mem_cons_self rfl 5 rfl⟩

/-- The first instrument asks again after it has been polled, while the second still holds the line:
there is no edge, and the pass does not come back to it. -/
theorem second_request_missed :
    ∃ s, Reach step anyStep { links := twoLinks, requesting := ∅ } s ∧ s.phase = .waiting ∧
      s.queued = 0 ∧ ⟨1, some 5, true⟩ ∈ s.links ∧ 5 ∈ s.requesting := by
  obtain ⟨s, hreach, htest⟩ := exists_reach_of_exec step { links := twoLinks, requesting := ∅ }
    (fun s => s.phase = .waiting ∧ s.queued = 0 ∧ ⟨1, some 5, true⟩ ∈ s.links ∧ 5 ∈ s.requesting)
    [.levelRead true, .subscribe true, .assert 5, .assert 7, .receive 0, .poll true, .assert 5,
      .poll true] (by decide +kernel)
  exact ⟨s, hreach, of_decide_eq_true htest⟩

end SrqWatch
end Ugpibd.Vxi11
