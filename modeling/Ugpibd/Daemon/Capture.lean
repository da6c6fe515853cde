import Mathlib.Data.List.Infix
import Ugpibd.Library.Runs
import Ugpibd.Library.Token

/-! The capture front end: what a talk-only source sends goes to one client as it is. Sessions end on
their own, when the mode is left, the client is gone or its socket fails, and each end has to give the
one slot back. The backend is held for single reads only, so that others come in between. -/
namespace Ugpibd.Daemon.Capture
open Library

structure Mode where
  listenOnly : Bool
  deviceAddress : Option UInt8
  deriving DecidableEq, Repr

def canCapture (mode : Mode) : Bool := mode.listenOnly || mode.deviceAddress.isSome

def inProgressText : String := "error: capture already in progress\n"
def notCapturingText : String := "error: not capturing; use ++lon 1 or ++dev <addr>\n"

def bytesOf (text : String) : List UInt8 := text.toUTF8.toList

/-- Where a client is: with the accepting task up to `rejecting`, and from `top` on in the loop of its
own session. -/
inductive Phase
  | absent
  | refusing
  | checking
  | rejecting
  | away
  | top
  | waiting
  | reading
  | writing (chunk : List UInt8)
  | ending
  | done
  deriving DecidableEq, Repr

/-- `gone` is set by the task that watches the socket, and `out` is what the client has been sent. What
was read for the client, and how many reads were begun after it had gone, is kept for the record. -/
structure Client where
  phase : Phase := .absent
  gone : Bool := false
  out : List UInt8 := []
  taken : List (List UInt8) := []
  lateReads : Nat := 0
  deriving DecidableEq, Repr

/-- Who has the backend: nobody, a capture session, or another front end. -/
inductive Ctrl
  | free
  | session
  | other
  deriving DecidableEq, Repr

/-- What the accepting task is at. While it refuses a client it keeps the flag locked. -/
inductive Accepting
  | idle
  | refusing
  | deciding
  deriving DecidableEq, Repr

structure Shared where
  mode : Mode
  ctrl : Ctrl := .free
  busy : Bool := false
  accepting : Accepting := .idle
  deriving DecidableEq, Repr

/-- What happens to a client. A text may be cut short where the socket fails, and so may a chunk. -/
inductive Event
  | accept
  | refused (sent : Nat)
  | check
  | rejected (sent : Nat)
  | depart
  | look
  | lock
  | read (result : Option (List UInt8))
  | write
  | writeFails (sent : Nat)
  | finish
  deriving DecidableEq, Repr

def Client.running (c : Client) : Bool :=
  match c.phase with
  | .top | .waiting | .reading | .writing _ => true
  | _ => false

/-- A bus that stays quiet is no failure: the read is made again. -/
def Client.took (c : Client) : Option (List UInt8) → Client
  | none => { c with phase := .top }
  | some [] => { c with phase := .top }
  | some chunk => { c with phase := .writing chunk, taken := c.taken ++ [chunk] }

/-- What can happen in one phase only. -/
def Client.inPhase (c : Client) (phase : Phase) (next : Option (Shared × Client)) :
    Option (Shared × Client) :=
  if c.phase = phase then next else none

def Client.step (s : Shared) (c : Client) : Event → Option (Shared × Client)
  | .accept => c.inPhase .absent <|
    if s.accepting ≠ .idle then none
    else if s.busy then some ({ s with accepting := .refusing }, { c with phase := .refusing })
    else some ({ s with busy := true, accepting := .deciding }, { c with phase := .checking })
  | .refused sent => c.inPhase .refusing <|
    some ({ s with accepting := .idle },
      { c with phase := .away, out := (bytesOf inProgressText).take sent })
  | .check => c.inPhase .checking <|
    if s.ctrl ≠ .free then none
    else if canCapture s.mode then some ({ s with accepting := .idle }, { c with phase := .top })
    else some (s, { c with phase := .rejecting })
  | .rejected sent => c.inPhase .rejecting <|
    some ({ s with busy := false, accepting := .idle },
      { c with phase := .away, out := (bytesOf notCapturingText).take sent })
  -- the watching task is gone with the loop
  | .depart => if c.running then some (s, { c with gone := true }) else none
  | .look => c.inPhase .top <| some (s, { c with phase := if c.gone then .ending else .waiting })
  | .lock => c.inPhase .waiting <|
    if s.ctrl ≠ .free then none
    else if canCapture s.mode then
      some ({ s with ctrl := .session }, { c with
        phase := .reading
        lateReads := c.lateReads + if c.gone then 1 else 0 })
    else some (s, { c with phase := .ending })
  | .read result => c.inPhase .reading <| some ({ s with ctrl := .free }, c.took result)
  | .write => match c.phase with
    | .writing chunk => some (s, { c with phase := .top, out := c.out ++ chunk })
    | _ => none
  | .writeFails sent => match c.phase with
    | .writing chunk => some (s, { c with phase := .ending, out := c.out ++ chunk.take sent })
    | _ => none
  | .finish => c.inPhase .ending <|
    if s.accepting = .refusing then none else some ({ s with busy := false }, { c with phase := .done })

structure State (ι : Type) where
  shared : Shared
  clients : ι → Client := fun _ => {}

inductive Action (ι : Type)
  | client (i : ι) (event : Event)
  | otherLocks
  | otherUnlocks (mode : Mode)
  deriving DecidableEq, Repr

variable {ι : Type}

def State.step [DecidableEq ι] (s : State ι) : Action ι → Option (State ι)
  | .client i event => ((s.clients i).step s.shared event).map fun next =>
      ⟨next.1, Function.update s.clients i next.2⟩
  | .otherLocks =>
    if s.shared.ctrl = .free then some { s with shared := { s.shared with ctrl := .other } } else none
  | .otherUnlocks mode =>
    if s.shared.ctrl = .other then some { s with shared := { s.shared with ctrl := .free, mode } }
    else none

/-- The client has the slot. -/
def Client.hasSlot (c : Client) : Bool :=
  c.running || c.phase ∈ [.checking, .rejecting, .ending]

def Client.reads (c : Client) : Bool := c.phase = .reading

/-- What a client has been sent, against what was read for it: a chunk may be in hand, and the end of one
lost with the socket. Who is turned away gets the text that says why. -/
def Client.Delivered (c : Client) : Prop :=
  match c.phase with
  | .away => c.taken = [] ∧ (c.out <+: bytesOf inProgressText ∨ c.out <+: bytesOf notCapturingText)
  | .writing chunk => c.taken.flatten = c.out ++ chunk
  | .ending => c.out <+: c.taken.flatten
  | .done => c.out <+: c.taken.flatten
  | .top | .waiting | .reading => c.taken.flatten = c.out
  | _ => c.taken = [] ∧ c.out = []

/-- How many reads may have been begun for a client that had gone: none, unless it went away while its
session waited for the backend. -/
def Client.lateBound (c : Client) : Nat :=
  match c.phase with
  | .waiting => 0
  | _ => if c.gone then 1 else 0

structure Client.Sound (c : Client) : Prop where
  delivered : c.Delivered
  lateReads_le : c.lateReads ≤ c.lateBound

/-- What one client may do to what they share. -/
structure Moves (s : Shared) (c : Client) (s' : Shared) (c' : Client) : Prop where
  slot : Passes c.hasSlot c'.hasSlot s.busy s'.busy
  backend : Passes c.reads c'.reads (s.ctrl = .session) (s'.ctrl = .session)
  mode : s'.mode = s.mode
  reads : s'.ctrl = .session → s.ctrl = .session ∨ canCapture s.mode = true
  sound : c.Sound → c'.Sound

theorem Client.inPhase_eq_some {c : Client} {phase : Phase} {next : Option (Shared × Client)}
    {found : Shared × Client} :
    c.inPhase phase next = some found ↔ c.phase = phase ∧ next = some found :=
  Option.ite_none_right_eq_some

theorem Client.lateBound_depart (c : Client) : c.lateBound ≤ { c with gone := true }.lateBound := by
  obtain ⟨phase, gone⟩ := c
  cases phase <;> cases gone <;> simp [lateBound]

/-- A read ends. -/
theorem Client.Sound.took {c : Client} (h : c.Sound) (hreading : c.phase = .reading)
    (result : Option (List UInt8)) : (c.took result).Sound := by
  obtain ⟨phase, gone, out, taken, lateReads⟩ := c
  obtain rfl : phase = .reading := hreading
  rcases result with _ | _ | ⟨byte, chunk⟩
  · exact ⟨h.delivered, h.lateReads_le⟩
  · exact ⟨h.delivered, h.lateReads_le⟩
  · refine ⟨?_, h.lateReads_le⟩
    change (taken ++ [byte :: chunk]).flatten = out ++ byte :: chunk
    rw [List.flatten_append, show taken.flatten = out from h.delivered]
    exact congrArg (out ++ ·) (List.append_nil _)

theorem Client.took_flags (c : Client) (result : Option (List UInt8)) :
    (c.took result).hasSlot = true ∧ (c.took result).reads = false := by
  rcases result with _ | _ | ⟨byte, chunk⟩
  · exact ⟨rfl, rfl⟩
  · exact ⟨rfl, rfl⟩
  · exact ⟨rfl, by simp [took, reads]⟩

theorem Client.step_moves {s s' : Shared} {c c' : Client} {e : Event}
    (hstep : c.step s e = some (s', c')) : Moves s c s' c' := by
  obtain ⟨phase, gone, out, taken, lateReads⟩ := c
  cases e with
  | accept =>
    obtain ⟨rfl, hstep⟩ := Client.inPhase_eq_some.mp hstep
    obtain ⟨-, hstep⟩ := Option.ite_none_left_eq_some.mp hstep
    split at hstep <;> rename_i hbusy <;> cases hstep
    · exact ⟨.keeps, .keeps, rfl, .inl, fun h => ⟨h.delivered, h.lateReads_le⟩⟩
    · refine ⟨?_, .keeps, rfl, .inl, fun h => ⟨h.delivered, h.lateReads_le⟩⟩
      rw [Bool.eq_false_iff.mpr hbusy]
      exact .takes
  | refused sent =>
    obtain ⟨rfl, hstep⟩ := Client.inPhase_eq_some.mp hstep
    cases hstep
    refine ⟨.keeps, .keeps, rfl, .inl, fun h => ⟨⟨h.delivered.1, .inl ?_⟩, h.lateReads_le⟩⟩
    exact List.take_prefix ..
  | check =>
    obtain ⟨rfl, hstep⟩ := Client.inPhase_eq_some.mp hstep
    obtain ⟨-, hstep⟩ := Option.ite_none_left_eq_some.mp hstep
    split at hstep <;> cases hstep
    · refine ⟨.keeps, .keeps, rfl, .inl, fun h => ⟨?_, h.lateReads_le⟩⟩
      obtain ⟨rfl, rfl⟩ : taken = [] ∧ out = [] := h.delivered
      rfl
    · exact ⟨.keeps, .keeps, rfl, .inl, fun h => ⟨h.delivered, h.lateReads_le⟩⟩
  | rejected sent =>
    obtain ⟨rfl, hstep⟩ := Client.inPhase_eq_some.mp hstep
    cases hstep
    refine ⟨.gives, .keeps, rfl, .inl, fun h => ⟨⟨h.delivered.1, .inr ?_⟩, h.lateReads_le⟩⟩
    exact List.take_prefix ..
  | depart =>
    obtain ⟨-, hstep⟩ := Option.ite_none_right_eq_some.mp hstep
    cases hstep
    refine ⟨.keeps, .keeps, rfl, .inl, fun h => ⟨h.delivered, ?_⟩⟩
    exact h.lateReads_le.trans (Client.lateBound_depart _)
  | look =>
    obtain ⟨rfl, hstep⟩ := Client.inPhase_eq_some.mp hstep
    cases hstep
    cases gone with
    | true =>
      refine ⟨.keeps, .keeps, rfl, .inl, fun h => ⟨?_, h.lateReads_le⟩⟩
      exact (show taken.flatten = out from h.delivered) ▸ List.prefix_rfl
    | false => exact ⟨.keeps, .keeps, rfl, .inl, fun h => ⟨h.delivered, h.lateReads_le⟩⟩
  | lock =>
    obtain ⟨rfl, hstep⟩ := Client.inPhase_eq_some.mp hstep
    simp only [Option.ite_none_left_eq_some, not_not] at hstep
    obtain ⟨hfree, hstep⟩ := hstep
    split at hstep <;> rename_i hmode <;> cases hstep
    · refine ⟨.keeps, ?_, rfl, fun _ => .inr hmode, fun h => ⟨h.delivered, ?_⟩⟩
      · rw [hfree]
        exact .takes
      · obtain rfl : lateReads = 0 := Nat.le_zero.mp h.lateReads_le
        exact (Nat.zero_add _).le
    · refine ⟨.keeps, .keeps, rfl, .inl, fun h => ⟨?_, ?_⟩⟩
      · exact (show taken.flatten = out from h.delivered) ▸ List.prefix_rfl
      · exact h.lateReads_le.trans (Nat.zero_le _)
  | read result =>
    obtain ⟨rfl, hstep⟩ := Client.inPhase_eq_some.mp hstep
    cases hstep
    obtain ⟨hslot, hreads⟩ := Client.took_flags ⟨.reading, gone, out, taken, lateReads⟩ result
    refine ⟨?_, ?_, rfl, (fun hctrl => by cases hctrl), fun h => h.took rfl result⟩
    · rw [hslot]
      exact .keeps
    · rw [hreads]
      exact .gives
  | write =>
    rw [Client.step] at hstep
    split at hstep <;> rename_i hphase <;> cases hstep
    obtain rfl := hphase
    exact ⟨.keeps, .keeps, rfl, .inl, fun h => ⟨h.delivered, h.lateReads_le⟩⟩
  | writeFails sent =>
    rw [Client.step] at hstep
    split at hstep <;> rename_i hphase <;> cases hstep
    obtain rfl := hphase
    refine ⟨.keeps, .keeps, rfl, .inl, fun h => ⟨?_, h.lateReads_le⟩⟩
    rw [Client.Delivered, show taken.flatten = out ++ _ from h.delivered]
    exact (List.prefix_append_right_inj _).mpr (List.take_prefix ..)
  | finish =>
    obtain ⟨rfl, hstep⟩ := Client.inPhase_eq_some.mp hstep
    obtain ⟨-, hstep⟩ := Option.ite_none_left_eq_some.mp hstep
    cases hstep
    exact ⟨.gives, .keeps, rfl, .inl, fun h => ⟨h.delivered, h.lateReads_le⟩⟩

variable {s s' : State ι} {i : ι}

structure Safe (s : State ι) : Prop where
  slot : Exclusive Client.hasSlot s.clients s.shared.busy
  backend : Exclusive Client.reads s.clients (s.shared.ctrl = .session)
  mode : s.shared.ctrl = .session → canCapture s.shared.mode = true
  sound : ∀ i, (s.clients i).Sound

theorem safe_start (mode : Mode) : Safe (ι := ι) { shared := { mode } } where
  slot := exclusive_start rfl
  backend := exclusive_start rfl
  mode := fun hctrl => by cases hctrl
  sound := fun _ => ⟨⟨rfl, rfl⟩, le_rfl⟩

/-- Another front end takes the backend or gives it up, in another mode perhaps. -/
theorem Safe.others (h : Safe s) {ctrl : Ctrl} {mode : Mode} (hbefore : s.shared.ctrl ≠ .session)
    (hafter : ctrl ≠ .session) : Safe { s with shared := { s.shared with ctrl, mode } } where
  slot := h.slot
  backend := by
    have hbackend := h.backend
    rw [decide_eq_false hbefore] at hbackend
    rw [decide_eq_false hafter]
    exact hbackend
  mode := fun hctrl => absurd hctrl hafter
  sound := h.sound

variable [DecidableEq ι]

theorem Safe.step {a : Action ι} (h : Safe s) (hstep : s.step a = some s') : Safe s' := by
  cases a with
  | client i event =>
    obtain ⟨⟨shared, c⟩, hclient, rfl⟩ := Option.map_eq_some_iff.mp hstep
    have hmoves := Client.step_moves hclient
    refine ⟨h.slot.update hmoves.slot, h.backend.update hmoves.backend, fun hctrl => ?_, fun j => ?_⟩
    · exact hmoves.mode ▸ (hmoves.reads hctrl).elim h.mode id
    · change (Function.update s.clients i c j).Sound
      by_cases hne : j = i
      · subst hne
        rw [Function.update_self]
        exact hmoves.sound (h.sound j)
      · rw [Function.update_of_ne hne]
        exact h.sound j
  | otherLocks =>
    obtain ⟨hfree, hstep⟩ := Option.ite_none_right_eq_some.mp hstep
    cases hstep
    exact h.others (fun hctrl => by cases hfree.symm.trans hctrl) fun hctrl => by cases hctrl
  | otherUnlocks mode =>
    obtain ⟨hother, hstep⟩ := Option.ite_none_right_eq_some.mp hstep
    cases hstep
    exact h.others (fun hctrl => by cases hother.symm.trans hctrl) fun hctrl => by cases hctrl

theorem safe_run {start : State ι} (hstart : Safe start)
    (hreach : Reach State.step anyStep start s) : Safe s :=
  hreach.invariant hstart fun _ _ _ h _ hstep => h.step hstep

/-- However the sessions, the accepting task and the other front ends interleave: no two clients have
the slot and it is taken exactly as long as one has it, a client gets the bytes that were read for it and
nothing else, the backend is read by one session at a time and only while there is something to capture,
and a client that is gone costs one read at most. -/
theorem one_client_streams {mode : Mode}
    (hreach : Reach State.step anyStep { shared := { mode } } s) :
    (∀ i j, (s.clients i).hasSlot = true → (s.clients j).hasSlot = true → i = j) ∧
    (s.shared.busy = true ↔ ∃ i, (s.clients i).hasSlot = true) ∧
    (s.shared.ctrl = .session ↔ ∃ i, (s.clients i).phase = .reading) ∧
    (s.shared.ctrl = .session → canCapture s.shared.mode = true) ∧
    ∀ i, (s.clients i).Delivered ∧
      (s.clients i).lateReads ≤ if (s.clients i).gone then 1 else 0 := by
  have h := safe_run (safe_start mode) hreach
  refine ⟨h.slot.unique, h.slot.flag_iff, ?_, h.mode, fun i => ⟨(h.sound i).delivered, ?_⟩⟩
  · simpa [Client.reads] using h.backend.flag_iff
  · refine (h.sound i).lateReads_le.trans ?_
    unfold Client.lateBound
    split
    · exact Nat.zero_le _
    · exact le_rfl

theorem second_client_is_turned_away :
    ∃ s : State Nat, Reach State.step anyStep { shared := { mode := ⟨true, none⟩ } } s ∧
      (s.clients 1).out = bytesOf inProgressText ∧ (s.clients 0).hasSlot = true ∧
      s.shared.busy = true := by
  obtain ⟨s, hreach, hs⟩ := exists_reach_of_exec State.step { shared := { mode := ⟨true, none⟩ } }
    (fun s : State Nat => (s.clients 1).out = bytesOf inProgressText ∧ (s.clients 0).hasSlot = true)
    [.client 0 .accept, .client 0 .check, .client 0 .look, .client 0 .lock, .client 1 .accept,
      .client 1 (.refused 100)] (by decide +kernel)
  obtain ⟨htext, hslot⟩ := of_decide_eq_true hs
  exact ⟨s, hreach, htext, hslot, (one_client_streams hreach).2.1.mpr ⟨0, hslot⟩⟩

/-! A session whose client is gone ends within a bounded number of its own steps. -/

/-- How many steps a client's connection has left once the client is gone. -/
def Phase.stepsLeft : Phase → Nat
  | .absent => 7
  | .checking => 6
  | .waiting => 5
  | .reading => 4
  | .writing _ => 3
  | .top => 2
  | .refusing | .rejecting | .ending => 1
  | .away | .done => 0

/-- The steps taken for a client, as against its going away. -/
def Action.takes (i : ι) : Action ι → Bool
  | .client j event => i = j ∧ event ≠ .depart
  | _ => false

theorem Client.step_stepsLeft {sh sh' : Shared} {c c' : Client} {e : Event} (hgone : c.gone = true)
    (hstep : c.step sh e = some (sh', c')) :
    c'.gone = true ∧
      c'.phase.stepsLeft + (if e ≠ .depart then 1 else 0) ≤ c.phase.stepsLeft := by
  obtain ⟨phase, gone, out, taken, lateReads⟩ := c
  obtain rfl : gone = true := hgone
  cases e with
  | accept | check | lock =>
    obtain ⟨rfl, hstep⟩ := Client.inPhase_eq_some.mp hstep
    obtain ⟨-, hstep⟩ := Option.ite_none_left_eq_some.mp hstep
    split at hstep <;> cases hstep <;> exact ⟨rfl, by simp [Phase.stepsLeft]⟩
  | refused sent | rejected sent | look =>
    obtain ⟨rfl, hstep⟩ := Client.inPhase_eq_some.mp hstep
    cases hstep
    exact ⟨rfl, le_rfl⟩
  | depart =>
    obtain ⟨-, hstep⟩ := Option.ite_none_right_eq_some.mp hstep
    cases hstep
    exact ⟨rfl, le_rfl⟩
  | read result =>
    obtain ⟨rfl, hstep⟩ := Client.inPhase_eq_some.mp hstep
    cases hstep
    rcases result with _ | _ | ⟨byte, chunk⟩ <;> exact ⟨rfl, by simp [took, Phase.stepsLeft]⟩
  | write | writeFails sent =>
    rw [Client.step] at hstep
    split at hstep <;> rename_i hphase <;> cases hstep
    obtain rfl := hphase
    exact ⟨rfl, by simp [Phase.stepsLeft]⟩
  | finish =>
    obtain ⟨rfl, hstep⟩ := Client.inPhase_eq_some.mp hstep
    obtain ⟨-, hstep⟩ := Option.ite_none_left_eq_some.mp hstep
    cases hstep
    exact ⟨rfl, le_rfl⟩

/-- Nobody else's step touches a client that is gone. -/
theorem step_stepsLeft {a : Action ι} (hgone : (s.clients i).gone = true)
    (hstep : s.step a = some s') :
    (s'.clients i).gone = true ∧ (s'.clients i).phase.stepsLeft + (if a.takes i then 1 else 0) ≤
      (s.clients i).phase.stepsLeft := by
  cases a with
  | client j event =>
    obtain ⟨⟨shared, c⟩, hclient, rfl⟩ := Option.map_eq_some_iff.mp hstep
    change (Function.update s.clients j c i).gone = true ∧
      (Function.update s.clients j c i).phase.stepsLeft + _ ≤ _
    by_cases hne : i = j
    · subst hne
      rw [Function.update_self]
      simpa [Action.takes] using Client.step_stepsLeft hgone hclient
    · rw [Function.update_of_ne hne]
      simp [Action.takes, hne, hgone]
  | otherLocks | otherUnlocks mode =>
    obtain ⟨-, hstep⟩ := Option.ite_none_right_eq_some.mp hstep
    cases hstep
    exact ⟨hgone, le_rfl⟩

/-- A run counts down with the steps taken for the client. -/
theorem run_stepsLeft {actions : List (Action ι)} (hgone : (s.clients i).gone = true)
    (hrun : exec State.step s actions = some s') :
    (actions.filter (·.takes i)).length ≤ (s.clients i).phase.stepsLeft := by
  induction actions generalizing s with
  | nil => exact Nat.zero_le _
  | cons a actions ih =>
    obtain ⟨t, hstep, hrun⟩ := Option.bind_eq_some_iff.mp hrun
    obtain ⟨hgone', hleft⟩ := step_stepsLeft hgone hstep
    have hrest := ih hgone' hrun
    rw [List.filter_cons]
    split at hleft <;> rename_i htakes
    · rw [if_pos htakes, List.length_cons]
      omega
    · rw [if_neg htakes]
      omega

/-- What may keep back the next step for a client that has the slot. -/
theorem Safe.enabled (h : Safe s) (hslot : (s.clients i).hasSlot = true) :
    (∃ a : Action ι, a.takes i = true ∧ (s.step a).isSome) ∨ s.shared.ctrl = .other ∨
      s.shared.accepting = .refusing := by
  -- whoever reads has the slot as well, so nobody but this client
  have hfree (hnot : (s.clients i).phase ≠ .reading) :
      s.shared.ctrl = .free ∨ s.shared.ctrl = .other := by
    cases hctrl : s.shared.ctrl with
    | free => exact .inl rfl
    | other => exact .inr rfl
    | session =>
      obtain ⟨j, hj⟩ := h.backend.flag_iff.mp (decide_eq_true hctrl)
      have hreading : (s.clients j).phase = .reading := of_decide_eq_true hj
      have hsame := h.slot.unique i j hslot (by simp [Client.hasSlot, Client.running, hreading])
      exact absurd (hsame ▸ hreading) hnot
  have hstep (e : Event) (he : e ≠ .depart) (hsome : ((s.clients i).step s.shared e).isSome) :
      ∃ a : Action ι, a.takes i = true ∧ (s.step a).isSome :=
    ⟨.client i e, decide_eq_true ⟨rfl, he⟩, by rw [State.step, Option.isSome_map]; exact hsome⟩
  cases hphase : (s.clients i).phase with
  | absent | refusing | away | done => simp [Client.hasSlot, Client.running, hphase] at hslot
  | checking =>
    refine (hfree (by simp [hphase])).imp (fun hctrl => ?_) .inl
    refine hstep .check (by decide) ?_
    cases hmode : canCapture s.shared.mode <;>
      simp [Client.step, Client.inPhase, hphase, hctrl, hmode]
  | waiting =>
    refine (hfree (by simp [hphase])).imp (fun hctrl => ?_) .inl
    refine hstep .lock (by decide) ?_
    cases hmode : canCapture s.shared.mode <;>
      simp [Client.step, Client.inPhase, hphase, hctrl, hmode]
  | rejecting => exact .inl (hstep (.rejected 0) (by decide) (by simp [Client.step, Client.inPhase, hphase]))
  | top => exact .inl (hstep .look (by decide) (by simp [Client.step, Client.inPhase, hphase]))
  | reading =>
    exact .inl (hstep (.read none) (by decide) (by simp [Client.step, Client.inPhase, hphase]))
  | writing chunk => exact .inl (hstep .write (by decide) (by simp [Client.step, hphase]))
  | ending =>
    by_cases hrefusing : s.shared.accepting = .refusing
    · exact .inr (.inr hrefusing)
    · refine .inl (hstep .finish (by decide) ?_)
      simp [Client.step, Client.inPhase, hphase, hrefusing]

end Ugpibd.Daemon.Capture
