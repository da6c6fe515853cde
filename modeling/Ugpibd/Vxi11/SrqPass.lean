import Ugpibd.Daemon.Addresses
import Ugpibd.Vxi11.BusSettings
import Ugpibd.Vxi11.LinkSteps

/-! The passes of the service-request forwarders. A pass asks each instrument of its links once and
keeps what it hears, both for the other links on the instrument and for the `device_readstb` that the
notified client will make. Between two polls every other task may run: links come and go, clients
register and withdraw handles, and other passes go on. -/
namespace Ugpibd.Vxi11.SrqPass
open Library Daemon Backend Messages

/-- A `device_enable_srq` on a link: the handle it registers, or that it withdraws the last one. -/
abbrev Registration := Link × Option (List UInt8)

/-- The handle most recently registered for a link. The newest registration comes first. -/
def registered (history : List Registration) (link : Link) : Option (List UInt8) :=
  (history.lookup link).join

/-- The cells of the links that the tasks share. `history` is not part of the program. -/
structure Cells where
  srqHandle : Link → Option (List UInt8) := fun _ => none
  consumedStb : Link → Option UInt8 := fun _ => none
  history : List Registration := []

/-- A link has come up in a pass, with the registrations made until then. -/
structure Turn where
  link : Link
  history : List Registration
  deriving DecidableEq, Repr

/-- A forwarder's pass: the links still to come, the first of which is being polled, and what the
instruments have answered, by their resource. The rest are notes on the pass: its links, its polls
with the last first, the links that have come up, and the notifications. -/
structure Pass where
  rest : List Link := []
  polled : Std.ExtTreeMap String Bool := ∅
  stash : Std.ExtTreeMap String UInt8 := ∅
  targets : List Link := []
  polls : List (UInt8 × Option UInt8) := []
  turns : List Turn := []
  sent : List (Link × List UInt8) := []

def stbRqs : UInt8 := 0x40

/-- Does the answer to a poll ask for service? A failed poll does not. -/
def requests : Option UInt8 → Bool
  | some stb => stb &&& stbRqs != 0
  | none => false

namespace Pass

/-- The answer to the poll of an instrument. -/
def answered (pass : Pass) (pad : UInt8) (result : Option UInt8) : Pass :=
  { pass with
    stash := match requests result, result with
      | true, some stb => pass.stash.insert (resourceKey pad) stb
      | _, _ => pass.stash
    polled := pass.polled.insert (resourceKey pad) (requests result)
    polls := (pad, result) :: pass.polls }

/-- Does the link's turn need no poll? The line itself is the signal of an interface link. -/
def requesting (pass : Pass) (link : Link) : Option Bool :=
  match link.kind with
  | .interface => some true
  | .pad _ => pass.polled[link.resource]?

/-- The byte is left for the client's own poll, and the handle is the one registered by now. -/
def notify (pass : Pass) (cells : Cells) (link : Link) (requesting : Bool) : Pass × Cells :=
  let pass := { pass with turns := pass.turns ++ [⟨link, cells.history⟩] }
  if requesting then
    let cells := match pass.stash[link.resource]? with
      | some stb => { cells with consumedStb := Function.update cells.consumedStb link (some stb) }
      | none => cells
    match cells.srqHandle link with
    | some handle => ({ pass with sent := pass.sent ++ [(link, handle)] }, cells)
    | none => (pass, cells)
  else (pass, cells)

/-- The loop up to the next poll. -/
def advance (pass : Pass) (cells : Cells) : List Link → Pass × Cells
  | [] => ({ pass with rest := [] }, cells)
  | link :: rest => match pass.requesting link with
    | some requesting =>
      let (pass, cells) := pass.notify cells link requesting
      pass.advance cells rest
    | none => ({ pass with rest := link :: rest }, cells)

end Pass

/-- The links with their cells, and the forwarders. -/
structure State where
  shared : Shared
  cells : Cells := {}
  passes : Nat → Pass := fun _ => {}

/-- A turn of a connection's task that bears on links and locks; a `device_enable_srq`; a
`device_write` or `device_readstb` on a link as it passes the lock gate; and a forwarder that begins a
pass or has the answer to its poll. -/
inductive Action
  | core (a : Vxi11.Action)
  | enableSrq (lid : Int32) (enable : Bool) (handle : List UInt8)
  | deviceWrite (link : Link)
  | deviceReadstb (link : Link)
  | lineAsserted (f : Nat)
  | pollAnswered (f : Nat) (result : Option UInt8)

namespace State

/-- The enabled links of a connection. -/
def targets (s : State) (c : Nat) : List Link :=
  ((s.shared.conns c).owned.filterMap fun lid => s.shared.links[lid]?).filter fun link =>
    (s.cells.srqHandle link).isSome

def setPass (s : State) (f : Nat) (after : Pass × Cells) : State :=
  { s with cells := after.2, passes := Function.update s.passes f after.1 }

def setConsumed (s : State) (link : Link) (stb : Option UInt8) : State :=
  { s with cells.consumedStb := Function.update s.cells.consumedStb link stb }

/-- `conn f` is the connection on which the forwarder's interrupt channel was made. -/
def step (conn : Nat → Nat) (s : State) : Action → Option State
  | .core a => (s.shared.step a).map fun shared => { s with shared }
  | .enableSrq lid enable handle => match s.shared.links[lid]? with
    | some link =>
      let srqHandle := if enable then some handle else none
      some { s with cells := { s.cells with
        srqHandle := Function.update s.cells.srqHandle link srqHandle
        history := (link, srqHandle) :: s.cells.history } }
    | none => some s
  | .deviceWrite link => some (s.setConsumed link none)
  | .deviceReadstb link => some (s.setConsumed link none)
  | .lineAsserted f => match (s.passes f).rest with
    | [] =>
      let targets := s.targets (conn f)
      some (s.setPass f (Pass.advance { targets } s.cells targets))
    | _ :: _ => none
  | .pollAnswered f result => match (s.passes f).rest with
    | [] => none
    | link :: rest => match link.kind with
      | .interface => none
      | .pad pad =>
        let (pass, cells) := ((s.passes f).answered pad result).notify s.cells link (requests result)
        some (s.setPass f (pass.advance cells rest))

end State

/-- Does the link have cause to be notified, by what the instruments have answered? -/
def asks (polls : List (UInt8 × Option UInt8)) (link : Link) : Bool :=
  match link.kind with
  | .interface => true
  | .pad pad => ((polls.lookup pad).map requests).getD false

/-- The notification that is due to the link when it comes up. -/
def Turn.due (polls : List (UInt8 × Option UInt8)) (turn : Turn) : Option (Link × List UInt8) :=
  if asks polls turn.link then (registered turn.history turn.link).map (turn.link, ·) else none

variable {pass : Pass} {cells : Cells} {link other : Link} {rest : List Link} {r : Bool} {pad : UInt8}
  {result : Option UInt8} {stb : UInt8}

theorem Turn.due_eq_some {polls : List (UInt8 × Option UInt8)} {turn : Turn} {handle : List UInt8} :
    turn.due polls = some (link, handle) ↔ turn.link = link ∧ asks polls link = true ∧
      registered turn.history link = some handle := by
  unfold Turn.due
  constructor
  · intro h
    split at h
    · rename_i hasks
      obtain ⟨_, hhandle, heq⟩ := Option.map_eq_some_iff.mp h
      obtain ⟨rfl, rfl⟩ := Prod.mk.inj heq
      exact ⟨rfl, hasks, hhandle⟩
    · cases h
  · rintro ⟨rfl, hasks, hhandle⟩
    rw [if_pos hasks, hhandle, Option.map_some]

/-- A device link has cause to be notified by one answer only. -/
theorem asks_of_pad {polls : List (UInt8 × Option UInt8)} (hpad : link.kind = .pad pad) :
    asks polls link = true ↔
      ∃ stb, polls.lookup pad = some (some stb) ∧ requests (some stb) = true := by
  simp only [asks, hpad]
  cases polls.lookup pad with
  | none => simp
  | some result => cases result <;> simp [requests]

theorem resource_of_pad (hpad : link.kind = .pad pad) : link.resource = resourceKey pad := by
  rw [Link.resource, hpad]

theorem lookup_cons_of_ne {pad' : UInt8} {polls : List (UInt8 × Option UInt8)} (hne : pad' ≠ pad) :
    ((pad, result) :: polls).lookup pad' = polls.lookup pad' := by
  rw [List.lookup_cons, beq_false_of_ne hne]

/-- The handles are those of the last registrations. -/
def Cells.Logged (cells : Cells) : Prop :=
  ∀ link, cells.srqHandle link = registered cells.history link

namespace Pass

theorem notify_eq : pass.notify cells link r =
    ({ pass with
        turns := pass.turns ++ [⟨link, cells.history⟩]
        sent := pass.sent ++ if r then ((cells.srqHandle link).map (link, ·)).toList else [] },
      { cells with
        consumedStb := if r then Function.update cells.consumedStb link
          ((pass.stash[link.resource]?).or (cells.consumedStb link)) else cells.consumedStb }) := by
  cases r with
  | false => simp [notify]
  | true =>
    simp only [notify, if_true]
    cases pass.stash[link.resource]? <;> cases cells.srqHandle link <;> simp

theorem notify_logged (h : cells.Logged) : (pass.notify cells link r).2.Logged := by
  rw [notify_eq]
  exact h

/-- What the pass remembers is what the instruments have answered, each asked once; and the links that
have come up were notified when they were due to be. -/
structure Sound (pass : Pass) : Prop where
  polled : ∀ pad, pass.polled[resourceKey pad]? = (pass.polls.lookup pad).map requests
  stash : ∀ pad, pass.stash[resourceKey pad]? =
    (pass.polls.lookup pad).bind (·.filter fun stb => requests (some stb))
  nodup : (pass.polls.map Prod.fst).Nodup
  covered : ∀ turn ∈ pass.turns, ∀ pad, turn.link.kind = .pad pad → (pass.polls.lookup pad).isSome
  sent : pass.sent = pass.turns.filterMap (Turn.due pass.polls)

/-- Between two steps the first of the links to come is being polled. -/
structure Standing (pass : Pass) : Prop extends pass.Sound where
  awaits : ∀ link rest, pass.rest = link :: rest → pass.requesting link = none
  targets : pass.turns.map Turn.link ++ pass.rest = pass.targets

theorem Sound.setRest (h : pass.Sound) (rest : List Link) : Sound { pass with rest } :=
  ⟨h.polled, h.stash, h.nodup, h.covered, h.sent⟩

theorem Sound.asks_of_requesting (h : pass.Sound) (hr : pass.requesting link = some r) :
    asks pass.polls link = r ∧
      ∀ pad, link.kind = .pad pad → (pass.polls.lookup pad).isSome := by
  unfold requesting at hr
  cases hkind : link.kind with
  | interface =>
    rw [hkind] at hr
    obtain rfl := Option.some.inj hr
    exact ⟨by rw [asks, hkind], nofun⟩
  | pad pad =>
    simp only [hkind] at hr
    rw [resource_of_pad hkind, h.polled] at hr
    refine ⟨by simp only [asks, hkind, hr, Option.getD_some], ?_⟩
    rintro _ ⟨⟩
    obtain ⟨result, hresult, -⟩ := Option.map_eq_some_iff.mp hr
    exact Option.isSome_of_eq_some hresult

theorem Sound.notify (h : pass.Sound) (hlog : cells.Logged) (hr : pass.requesting link = some r) :
    (pass.notify cells link r).1.Sound := by
  obtain ⟨hasks, hcovered⟩ := h.asks_of_requesting hr
  rw [notify_eq]
  refine ⟨h.polled, h.stash, h.nodup, ?_, ?_⟩
  · intro turn hturn pad hpad
    rcases List.mem_append.mp hturn with hturn | hturn
    · exact h.covered turn hturn pad hpad
    · obtain rfl := List.mem_singleton.mp hturn
      exact hcovered pad hpad
  · simp only [List.filterMap_append, ← h.sent, List.append_cancel_left_eq, Turn.due, hasks,
      List.filterMap_cons, List.filterMap_nil, hlog link]
    cases r with
    | false => rfl
    | true => cases registered cells.history link <;> rfl

theorem answered_polls : (pass.answered pad result).polls = (pad, result) :: pass.polls := rfl

theorem answered_polled (pad' : UInt8) : (pass.answered pad result).polled[resourceKey pad']? =
    if pad = pad' then some (requests result) else pass.polled[resourceKey pad']? := by
  simp only [Pass.answered, Std.ExtTreeMap.getElem?_insert, Std.LawfulEqCmp.compare_eq_iff_eq]
  exact if_congr ⟨resourceKey_injective, congrArg resourceKey⟩ rfl rfl

theorem answered_stash (pad' : UInt8) : (pass.answered pad result).stash[resourceKey pad']? =
    if pad = pad' then (result.filter fun stb => requests (some stb)).or pass.stash[resourceKey pad']?
    else pass.stash[resourceKey pad']? := by
  have hkey : resourceKey pad = resourceKey pad' ↔ pad = pad' :=
    ⟨resourceKey_injective, congrArg resourceKey⟩
  cases result with
  | none => simp [Pass.answered, requests]
  | some stb =>
    cases hr : requests (some stb) with
    | false => simp [Pass.answered, hr, Option.filter]
    | true =>
      simp only [Pass.answered, hr, Std.ExtTreeMap.getElem?_insert,
        Std.LawfulEqCmp.compare_eq_iff_eq, hkey, Option.filter_some, if_true, Option.some_or]

/-- An instrument that has not been asked yet answers. -/
theorem Sound.answered (h : pass.Sound) (result : Option UInt8)
    (hnew : pass.polls.lookup pad = none) :
    (pass.answered pad result).Sound := by
  have hold : ∀ {pad'}, (pass.polls.lookup pad').isSome → pad' ≠ pad := by
    rintro _ hsome rfl
    simp [hnew] at hsome
  refine ⟨fun pad' => ?_, fun pad' => ?_, ?_, fun turn hturn pad' hpad' => ?_, ?_⟩
  · rw [answered_polled, answered_polls]
    by_cases hpad : pad = pad'
    · subst hpad
      rw [if_pos rfl, List.lookup_cons_self, Option.map_some]
    · rw [if_neg hpad, lookup_cons_of_ne (Ne.symm hpad), h.polled]
  · rw [answered_stash, answered_polls]
    by_cases hpad : pad = pad'
    · subst hpad
      rw [if_pos rfl, List.lookup_cons_self, h.stash, hnew]
      simp
    · rw [if_neg hpad, lookup_cons_of_ne (Ne.symm hpad), h.stash]
  · have hmem : pad ∉ pass.polls.map Prod.fst := by
      intro hmem
      obtain ⟨poll, hpoll, rfl⟩ := List.mem_map.mp hmem
      simpa using List.lookup_eq_none_iff.mp hnew poll hpoll
    exact List.nodup_cons.mpr ⟨hmem, h.nodup⟩
  · have hsome := h.covered turn hturn pad' hpad'
    rwa [answered_polls, lookup_cons_of_ne (hold hsome)]
  · refine h.sent.trans (List.filterMap_congr fun turn hturn => ?_)
    have hasks : asks ((pad, result) :: pass.polls) turn.link = asks pass.polls turn.link := by
      cases hkind : turn.link.kind with
      | interface => simp only [asks, hkind]
      | pad pad' =>
        simp only [asks, hkind, lookup_cons_of_ne (hold (h.covered turn hturn pad' hkind))]
    rw [answered_polls, Turn.due, Turn.due, hasks]

theorem requesting_answered (hpad : link.kind = .pad pad) :
    (pass.answered pad result).requesting link = some (requests result) := by
  simp only [requesting, hpad]
  rw [resource_of_pad hpad, answered_polled, if_pos rfl]

theorem advance_of_some (hr : pass.requesting link = some r) :
    pass.advance cells (link :: rest) =
      (pass.notify cells link r).1.advance (pass.notify cells link r).2 rest := by
  rw [advance, hr]

theorem advance_of_none (hr : pass.requesting link = none) :
    pass.advance cells (link :: rest) = ({ pass with rest := link :: rest }, cells) := by
  rw [advance, hr]

/-- The loop keeps what the pass remembers, and stops where a poll is needed. -/
theorem Sound.advance (h : pass.Sound) (hlog : cells.Logged)
    (htargets : pass.turns.map Turn.link ++ rest = pass.targets) :
    (pass.advance cells rest).1.Standing ∧ (pass.advance cells rest).2.Logged := by
  induction rest generalizing pass cells with
  | nil => exact ⟨⟨h.setRest [], nofun, htargets⟩, hlog⟩
  | cons link rest ih =>
    cases hr : pass.requesting link with
    | some r =>
      rw [advance_of_some hr]
      refine ih (h.notify hlog hr) (notify_logged hlog) ?_
      simpa [notify_eq] using htargets
    | none =>
      rw [advance_of_none hr]
      refine ⟨⟨h.setRest _, ?_, htargets⟩, hlog⟩
      rintro _ _ ⟨⟩
      exact hr

theorem advance_rest : (pass.advance cells rest).1.rest <:+ rest := by
  induction rest generalizing pass cells with
  | nil => exact List.suffix_refl _
  | cons link rest ih =>
    cases hr : pass.requesting link with
    | some r =>
      rw [advance_of_some hr]
      exact ih.trans (List.suffix_cons _ _)
    | none => rw [advance_of_none hr]

/-- What every turn keeps, and does not depend on the links to come, the loop keeps. -/
theorem advance_invariant {P : Pass → Cells → Prop}
    (hrest : ∀ pass cells rest, P pass cells → P { pass with rest } cells)
    (hnotify : ∀ pass cells, ∀ link ∈ rest, ∀ r, P pass cells →
      P (pass.notify cells link r).1 (pass.notify cells link r).2) (h : P pass cells) :
    P (pass.advance cells rest).1 (pass.advance cells rest).2 := by
  induction rest generalizing pass cells with
  | nil => exact hrest _ _ _ h
  | cons link rest ih =>
    cases hr : pass.requesting link with
    | some r =>
      rw [advance_of_some hr]
      exact ih (fun pass cells other hother => hnotify pass cells other (.tail _ hother))
        (hnotify _ _ link (.head _) r h)
    | none =>
      rw [advance_of_none hr]
      exact hrest _ _ _ h

theorem advance_notes : (pass.advance cells rest).1.polls = pass.polls ∧
    (pass.advance cells rest).1.stash = pass.stash ∧
    (pass.advance cells rest).1.targets = pass.targets := by
  refine advance_invariant (P := fun after _ => after.polls = pass.polls ∧ after.stash = pass.stash ∧
    after.targets = pass.targets) (fun _ _ _ => id) ?_ ⟨rfl, rfl, rfl⟩
  intro after cells link _ r h
  rw [notify_eq]
  exact h

theorem advance_srqHandle : (pass.advance cells rest).2.srqHandle = cells.srqHandle := by
  refine advance_invariant (P := fun _ after => after.srqHandle = cells.srqHandle)
    (fun _ _ _ => id) ?_ rfl
  intro pass after link _ r h
  rw [notify_eq]
  exact h

/-- A link that does not come up keeps its byte. -/
theorem advance_consumed_of_not_mem (hmem : link ∉ rest) :
    (pass.advance cells rest).2.consumedStb link = cells.consumedStb link := by
  refine advance_invariant (P := fun _ after => after.consumedStb link = cells.consumedStb link)
    (fun _ _ _ => id) ?_ rfl
  intro pass after other hother r h
  have hne : link ≠ other := by
    rintro rfl
    exact hmem hother
  rw [notify_eq, ← h]
  split
  · exact Function.update_of_ne hne _ _
  · rfl

/-- The link has been left the byte its instrument has answered with. -/
def Holds (link : Link) (pass : Pass) (cells : Cells) : Prop :=
  ∀ stb, pass.stash[link.resource]? = some stb → cells.consumedStb link = some stb

theorem notify_holds (h : r = true ∧ other = link ∨ Holds link pass cells) :
    Holds link (pass.notify cells other r).1 (pass.notify cells other r).2 := by
  intro stb hstash
  rw [notify_eq] at hstash ⊢
  rcases h with ⟨rfl, rfl⟩ | h
  · simp only [if_true, Function.update_self]
    rw [hstash, Option.some_or]
  · cases r with
    | false => exact h stb hstash
    | true =>
      by_cases hlink : link = other
      · subst hlink
        simp only [if_true, Function.update_self]
        rw [hstash, Option.some_or]
      · simp only [if_true, Function.update_of_ne hlink]
        exact h stb hstash

theorem Holds.advance (h : Holds link pass cells) :
    Holds link (pass.advance cells rest).1 (pass.advance cells rest).2 :=
  advance_invariant (fun _ _ _ => id) (fun _ _ _ _ _ h => notify_holds (.inr h)) h

/-- Whoever the loop notifies has been left the byte. -/
theorem advance_sent (pass : Pass) (cells : Cells) (rest : List Link) :
    ∃ new, (pass.advance cells rest).1.sent = pass.sent ++ new ∧
      ∀ entry ∈ new, Holds entry.1 (pass.advance cells rest).1 (pass.advance cells rest).2 := by
  refine advance_invariant (P := fun after cells => ∃ new, after.sent = pass.sent ++ new ∧
    ∀ entry ∈ new, Holds entry.1 after cells) (fun _ _ _ => id) ?_ ⟨[], by simp, nofun⟩
  rintro after cells link - r ⟨new, hsent, hholds⟩
  refine ⟨new ++ if r then ((cells.srqHandle link).map (link, ·)).toList else [], ?_, ?_⟩
  · rw [notify_eq, hsent, List.append_assoc]
  · intro entry hentry
    rcases List.mem_append.mp hentry with hentry | hentry
    · exact notify_holds (.inr (hholds entry hentry))
    · refine notify_holds (.inl ?_)
      cases r with
      | false => simp at hentry
      | true =>
        obtain ⟨handle, -, rfl⟩ := Option.map_eq_some_iff.mp (Option.mem_toList.mp hentry)
        exact ⟨rfl, rfl⟩

/-- The links come up with what has been registered by now. -/
theorem advance_turns (pass : Pass) (cells : Cells) (rest : List Link) :
    ∃ new, (pass.advance cells rest).1.turns = pass.turns ++ new ∧
      ∀ turn ∈ new, turn.history = cells.history := by
  have hadvance : (pass.advance cells rest).2.history = cells.history ∧
      ∃ new, (pass.advance cells rest).1.turns = pass.turns ++ new ∧
        ∀ turn ∈ new, turn.history = cells.history := by
    refine advance_invariant (P := fun after cells' => cells'.history = cells.history ∧
      ∃ new, after.turns = pass.turns ++ new ∧ ∀ turn ∈ new, turn.history = cells.history)
      (fun _ _ _ => id) ?_ ⟨rfl, [], by simp, nofun⟩
    rintro after cells' link - r ⟨hhistory, new, hturns, hnew⟩
    rw [notify_eq]
    refine ⟨hhistory, new ++ [⟨link, cells'.history⟩], by simp [hturns], fun turn hturn => ?_⟩
    rcases List.mem_append.mp hturn with hturn | hturn
    · exact hnew turn hturn
    · obtain rfl := List.mem_singleton.mp hturn
      exact hhistory
  exact hadvance.2

end Pass

namespace State
variable {conn : Nat → Nat} {f : Nat} {s s' s₁ s₂ : State} {a : Action} {after : Pass × Cells}

theorem step_lineAsserted (h : s.step conn (.lineAsserted f) = some s') :
    s' = s.setPass f
      (Pass.advance { targets := s.targets (conn f) } s.cells (s.targets (conn f))) := by
  simp only [step] at h
  split at h
  · exact (Option.some.inj h).symm
  · cases h

/-- The answer to the poll goes before the link's turn. -/
theorem step_pollAnswered (h : s.step conn (.pollAnswered f result) = some s') :
    ∃ link rest pad, (s.passes f).rest = link :: rest ∧ link.kind = .pad pad ∧
      s' = s.setPass f (((s.passes f).answered pad result).advance s.cells (link :: rest)) := by
  simp only [step] at h
  split at h
  · cases h
  · rename_i link rest hrest
    split at h
    · cases h
    · rename_i pad hpad
      refine ⟨link, rest, pad, hrest, hpad, ?_⟩
      rw [Pass.advance_of_some (Pass.requesting_answered hpad)]
      exact (Option.some.inj h).symm

structure Sound (s : State) : Prop where
  logged : s.cells.Logged
  standing : ∀ f, (s.passes f).Standing

theorem Sound.setPass (h : s.Sound) (hafter : after.1.Standing ∧ after.2.Logged) :
    (s.setPass f after).Sound where
  logged := hafter.2
  standing := by
    intro g
    by_cases hg : g = f
    · subst hg
      simpa only [State.setPass, Function.update_self] using hafter.1
    · simpa only [State.setPass, Function.update_of_ne hg] using h.standing g

theorem sound_new (targets : List Link) : Pass.Sound { targets } :=
  ⟨by simp, by simp, .nil, nofun, rfl⟩

/-- The link being polled is on an instrument that the pass has not asked. -/
theorem lookup_of_awaits (h : pass.Standing) (hrest : pass.rest = link :: rest)
    (hpad : link.kind = .pad pad) : pass.polls.lookup pad = none := by
  have hnone := h.awaits link rest hrest
  simp only [Pass.requesting, hpad] at hnone
  rw [resource_of_pad hpad, h.polled] at hnone
  exact Option.map_eq_none_iff.mp hnone

theorem Sound.step (h : s.Sound) (hstep : s.step conn a = some s') : s'.Sound := by
  cases a with
  | core a =>
    obtain ⟨shared, -, rfl⟩ := Option.map_eq_some_iff.mp hstep
    exact ⟨h.logged, h.standing⟩
  | enableSrq lid enable handle =>
    simp only [State.step] at hstep
    split at hstep
    · rename_i link _
      obtain rfl := Option.some.inj hstep
      refine ⟨fun other => ?_, h.standing⟩
      by_cases hother : other = link
      · subst hother
        simp [registered]
      · have hlog : s.cells.srqHandle other = registered s.cells.history other := h.logged other
        simp [registered, List.lookup_cons, beq_false_of_ne hother, Function.update_of_ne hother, hlog]
    · obtain rfl := Option.some.inj hstep
      exact h
  | deviceWrite link | deviceReadstb link =>
    obtain rfl := Option.some.inj hstep
    exact ⟨h.logged, h.standing⟩
  | lineAsserted f =>
    rw [step_lineAsserted hstep]
    exact h.setPass ((sound_new _).advance h.logged rfl)
  | pollAnswered f result =>
    obtain ⟨link, rest, pad, hrest, hpad, rfl⟩ := step_pollAnswered hstep
    have hpass := h.standing f
    have hanswered := hpass.toSound.answered result (lookup_of_awaits hpass hrest hpad)
    refine h.setPass (hanswered.advance h.logged ?_)
    rw [← hrest]
    exact hpass.targets

theorem sound_of_reach {shared : Shared} (h : Reach (step conn) anyStep { shared } s) : s.Sound :=
  h.invariant ⟨fun _ => rfl, fun _ => ⟨sound_new [], nofun, rfl⟩⟩
    fun _ _ _ hsound _ hstep => hsound.step hstep

/-- Whatever a link's cells hold, and whatever a pass goes over, was made before. -/
structure Made (s : State) : Prop where
  tabled : s.shared.Numbered
  targeted : ∀ f, ∀ link ∈ (s.passes f).rest, link.number < s.shared.created
  blank : ∀ link, s.shared.created ≤ link.number →
    s.cells.srqHandle link = none ∧ s.cells.consumedStb link = none

theorem Made.setPass (h : s.Made) (hrest : ∀ link ∈ rest, link.number < s.shared.created)
    (pass : Pass) : (s.setPass f (pass.advance s.cells rest)).Made where
  tabled := h.tabled
  targeted := by
    intro g link hlink
    by_cases hg : g = f
    · subst hg
      simp only [State.setPass, Function.update_self] at hlink
      exact hrest link (Pass.advance_rest.subset hlink)
    · simp only [State.setPass, Function.update_of_ne hg] at hlink
      exact h.targeted g link hlink
  blank := by
    intro link hlink
    obtain ⟨hhandle, hconsumed⟩ := h.blank link hlink
    have hmem : link ∉ rest := fun hmem => Nat.not_lt.mpr hlink (hrest link hmem)
    exact ⟨(congrFun Pass.advance_srqHandle link).trans hhandle,
      (Pass.advance_consumed_of_not_mem hmem).trans hconsumed⟩

theorem Made.step (h : s.Made) (hstep : s.step conn a = some s') : s'.Made := by
  cases a with
  | core a =>
    obtain ⟨shared, hshared, rfl⟩ := Option.map_eq_some_iff.mp hstep
    obtain ⟨hle, htabled⟩ := Shared.step_made h.tabled hshared
    exact ⟨htabled, fun f link hlink => (h.targeted f link hlink).trans_le hle,
      fun link hlink => h.blank link (hle.trans hlink)⟩
  | enableSrq lid enable handle =>
    simp only [State.step] at hstep
    split at hstep
    · rename_i link hlink
      obtain rfl := Option.some.inj hstep
      refine ⟨h.tabled, h.targeted, fun other hother => ?_⟩
      have hne : other ≠ link := by
        rintro rfl
        exact Nat.not_lt.mpr hother (h.tabled lid other hlink)
      simpa only [Function.update_of_ne hne] using h.blank other hother
    · obtain rfl := Option.some.inj hstep
      exact h
  | deviceWrite link | deviceReadstb link =>
    obtain rfl := Option.some.inj hstep
    refine ⟨h.tabled, h.targeted, fun other hother => ⟨(h.blank other hother).1, ?_⟩⟩
    simp only [setConsumed, Function.update_apply]
    split
    · rfl
    · exact (h.blank other hother).2
  | lineAsserted f =>
    rw [step_lineAsserted hstep]
    refine h.setPass (fun link hlink => ?_) _
    obtain ⟨lid, -, hlid⟩ := List.mem_filterMap.mp (List.mem_filter.mp hlink).1
    exact h.tabled lid link hlid
  | pollAnswered f result =>
    obtain ⟨link, rest, pad, hrest, -, rfl⟩ := step_pollAnswered hstep
    rw [← hrest]
    exact h.setPass (h.targeted f) _

/-- A link that is yet to be made will begin with no handle registered and no byte left for it. -/
theorem blank_of_reach {maxRecvSize : UInt32} {maxLinks : Nat} {abortPort : UInt16}
    (h : Reach (step conn) anyStep { shared := { maxRecvSize, maxLinks, abortPort } } s)
    (hlink : s.shared.created ≤ link.number) :
    s.cells.srqHandle link = none ∧ s.cells.consumedStb link = none := by
  have hmade : s.Made := by
    refine h.invariant ⟨?_, nofun, fun _ _ => ⟨rfl, rfl⟩⟩ fun _ _ _ hmade _ hstep => hmade.step hstep
    intro lid link hlid
    simp at hlid
  exact hmade.blank link hlink

/-- Nothing takes the link's byte away: no `device_write` or `device_readstb` on it passes the lock
gate, and it comes up in no other pass. -/
def Undisturbed (conn : Nat → Nat) (f : Nat) (link : Link) (s : State) : Action → Prop
  | .core _ | .enableSrq .. => True
  | .deviceWrite other | .deviceReadstb other => other ≠ link
  | .lineAsserted g => link ∉ s.targets (conn g)
  | .pollAnswered g _ => g = f ∨ link ∉ (s.passes g).rest

/-- The link has its byte, and the pass that left it there would leave the same one. -/
structure Left (f : Nat) (link : Link) (stb : UInt8) (s : State) : Prop where
  consumed : s.cells.consumedStb link = some stb
  stash : link ∈ (s.passes f).rest → (s.passes f).stash[link.resource]? = some stb

theorem Left.setPass_of_not_mem (h : s.Left f link stb) (hmem : link ∉ rest) (g : Nat) (pass : Pass) :
    (s.setPass g (pass.advance s.cells rest)).Left f link stb where
  consumed := (Pass.advance_consumed_of_not_mem hmem).trans h.consumed
  stash := by
    intro hrest
    by_cases hg : f = g
    · subst hg
      simp only [State.setPass, Function.update_self] at hrest
      exact absurd (Pass.advance_rest.subset hrest) hmem
    · simp only [State.setPass, Function.update_of_ne hg] at hrest ⊢
      exact h.stash hrest

theorem Left.step (h : s.Left f link stb) (hsound : s.Sound) (hpad : link.kind = .pad pad)
    (hu : s.Undisturbed conn f link a) (hstep : s.step conn a = some s') : s'.Left f link stb := by
  cases a with
  | core a =>
    obtain ⟨shared, -, rfl⟩ := Option.map_eq_some_iff.mp hstep
    exact ⟨h.consumed, h.stash⟩
  | enableSrq lid enable handle =>
    simp only [State.step] at hstep
    split at hstep
    · obtain rfl := Option.some.inj hstep
      exact ⟨h.consumed, h.stash⟩
    · obtain rfl := Option.some.inj hstep
      exact h
  | deviceWrite other | deviceReadstb other =>
    obtain rfl := Option.some.inj hstep
    exact ⟨(Function.update_of_ne (Ne.symm hu) _ _).trans h.consumed, h.stash⟩
  | lineAsserted g =>
    rw [step_lineAsserted hstep]
    exact h.setPass_of_not_mem hu g _
  | pollAnswered g result =>
    obtain ⟨polled, rest, pad', hrest, hpad', rfl⟩ := step_pollAnswered hstep
    rw [← hrest]
    by_cases hmem : link ∈ (s.passes g).rest
    · obtain rfl : g = f := hu.resolve_right fun hno => hno hmem
      have hpass := hsound.standing g
      have hstash := h.stash hmem
      -- the instrument being polled is another one: this one has answered
      have hne : pad' ≠ pad := by
        rintro rfl
        rw [resource_of_pad hpad, hpass.stash, lookup_of_awaits hpass hrest hpad'] at hstash
        cases hstash
      have hkept : ((s.passes g).answered pad' result).stash[link.resource]? = some stb := by
        rw [resource_of_pad hpad] at hstash ⊢
        rw [Pass.answered_stash, if_neg hne, hstash]
      have hholds : Pass.Holds link ((s.passes g).answered pad' result) s.cells := by
        intro stb' hstb'
        rw [h.consumed, ← hkept, hstb']
      refine ⟨hholds.advance stb (by rw [Pass.advance_notes.2.1, hkept]), fun _ => ?_⟩
      simp only [State.setPass, Function.update_self]
      rw [Pass.advance_notes.2.1, hkept]
    · exact h.setPass_of_not_mem hmem g _

/-- Whoever a pass notifies after a poll has been left the byte of its instrument. -/
theorem left_of_sent (hsound : s.Sound) (hstep : s.step conn (.pollAnswered f result) = some s') :
    ∃ sent, (s'.passes f).sent = (s.passes f).sent ++ sent ∧
      ∀ link handle pad, (link, handle) ∈ sent → link.kind = .pad pad →
        ∃ stb, (s'.passes f).polls.lookup pad = some (some stb) ∧ requests (some stb) = true ∧
          s'.Left f link stb := by
  have hpass := (hsound.step hstep).standing f
  obtain ⟨polled, rest, pad', -, -, rfl⟩ := step_pollAnswered hstep
  simp only [State.setPass, Function.update_self] at hpass
  obtain ⟨sent, hsent, hholds⟩ :=
    Pass.advance_sent ((s.passes f).answered pad' result) s.cells (polled :: rest)
  simp only [State.setPass, Function.update_self]
  refine ⟨sent, hsent, fun link handle pad hmem hpad => ?_⟩
  have hdue := List.mem_append_right ((s.passes f).answered pad' result).sent hmem
  rw [← hsent, hpass.sent] at hdue
  obtain ⟨turn, -, hdue⟩ := List.mem_filterMap.mp hdue
  obtain ⟨-, hasks, -⟩ := Turn.due_eq_some.mp hdue
  obtain ⟨stb, hstb, hrequests⟩ := (asks_of_pad hpad).mp hasks
  have hstash := hpass.stash pad
  rw [hstb, Option.bind_some, Option.filter_some, if_pos hrequests, ← resource_of_pad hpad] at hstash
  refine ⟨stb, hstb, hrequests, hholds _ hmem stb hstash, fun _ => ?_⟩
  simpa only [Function.update_self] using hstash

theorem left_of_reach (hsound : s₁.Sound) (hpad : link.kind = .pad pad) (hleft : s₁.Left f link stb)
    (h : Reach (step conn) (Undisturbed conn f link) s₁ s₂) : s₂.Left f link stb := by
  have hboth : s₂.Sound ∧ s₂.Left f link stb := by
    refine h.invariant (P := fun s => s.Sound ∧ s.Left f link stb) ⟨hsound, hleft⟩ ?_
    rintro s a t ⟨hsound, hleft⟩ hu hstep
    exact ⟨hsound.step hstep, hleft.step hsound hpad hu hstep⟩
  exact hboth.2

/-- A pass that waits for an answer is brought on by it. -/
theorem exists_pollAnswered (hsound : s.Sound) (hrest : (s.passes f).rest ≠ [])
    (result : Option UInt8) : ∃ s₁, s.step conn (.pollAnswered f result) = some s₁ := by
  obtain ⟨link, rest, hcons⟩ := List.exists_cons_of_ne_nil hrest
  have hawaits := (hsound.standing f).awaits link rest hcons
  cases hkind : link.kind with
  | interface => simp [Pass.requesting, hkind] at hawaits
  | pad pad =>
    simp only [step, hcons, hkind]
    exact ⟨_, rfl⟩

theorem pollAnswered_proceeds (hstep : s.step conn (.pollAnswered f result) = some s₁) :
    (s₁.passes f).targets = (s.passes f).targets ∧
      (s₁.passes f).rest.length < (s.passes f).rest.length ∧
      ∃ new, (s₁.passes f).turns = (s.passes f).turns ++ new ∧
        ∀ turn ∈ new, turn.history = s.cells.history := by
  obtain ⟨link, rest, pad, hrest, hpad, rfl⟩ := step_pollAnswered hstep
  simp only [State.setPass, Function.update_self, hrest]
  refine ⟨Pass.advance_notes.2.2, ?_, Pass.advance_turns _ _ _⟩
  rw [Pass.advance_of_some (Pass.requesting_answered hpad)]
  exact Nat.lt_succ_of_le Pass.advance_rest.length_le

/-- The next `device_readstb` on the link that passes the lock gate answers with the byte and leaves
the bus alone, whatever else has happened in between. -/
def AnswersNext (conn : Nat → Nat) (f : Nat) (link : Link) (pad stb : UInt8) (s₁ : State) : Prop :=
  ∀ s₂, Reach (step conn) (Undisturbed conn f link) s₁ s₂ →
    ∀ {C P E : Type} (backend : GpibBackend C P E) (config : BusSettings.Config)
      (parms : DeviceGenericParms) (met : BusSettings.Circumstances),
      BusSettings.deviceReadstb backend config parms { met with
        link := some ⟨false, pad⟩, access := .ok (), consumedStb := s₂.cells.consumedStb link } =
      pure ⟨ErrorCode.noError.asU32, stb⟩

end State

end Ugpibd.Vxi11.SrqPass
