import Ugpibd.Library.Runs

/-! The serial polls of a session's service-request forwarder, await by await. The forwarder's task
is aborted when the asynchronous channel ends, wherever its poll is. -/
namespace Ugpibd.Hislip
open Library

inductive Adapter
  | niUsbHs
  | agilent82357
  | usbtmc
  deriving DecidableEq, Repr

/-- The awaited call a serial poll is in. -/
inductive PollStage
  | enable
  | readyAcceptor
  | goToStandby
  | takeStatusByte
  | restoreAcceptor
  | writeGts
  | requestByte
  | readByte
  | recoverFromStall
  | disable
  | rearmSrq
  | readStatusByte
  deriving DecidableEq, Repr

/-- The first call: a USBTMC instrument has a request for its status byte, and no bus. -/
def Adapter.firstStage : Adapter → PollStage
  | .usbtmc => .readStatusByte
  | _ => .enable

/-- The call that follows one that succeeded or failed; none where the poll returns. -/
def Adapter.nextStage (adapter : Adapter) (ok : Bool) : PollStage → Option PollStage
  | .enable =>
    if ok then some (match adapter with | .niUsbHs => .readyAcceptor | _ => .writeGts) else none
  | .readyAcceptor => if ok then some .goToStandby else none
  | .goToStandby => some (if ok then .takeStatusByte else .restoreAcceptor)
  | .takeStatusByte => some .restoreAcceptor
  -- the disable is sent whether or not the acceptor was put back
  | .restoreAcceptor => some .disable
  | .writeGts => if ok then some .requestByte else none
  | .requestByte => if ok then some .readByte else none
  | .readByte => some (if ok then .disable else .recoverFromStall)
  | .recoverFromStall => some .disable
  | .disable => match adapter with
    | .niUsbHs => some .rearmSrq
    | _ => none
  | .rearmSrq | .readStatusByte => none

/-- The two commands of a poll: Serial Poll Enable with the addressing, and Serial Poll Disable with
Untalk. -/
inductive PollCommand
  | spe
  | spdUnt
  deriving DecidableEq, Repr

/-- The command a call puts on the bus. -/
def PollStage.command : PollStage → Option PollCommand
  | .enable => some .spe
  | .disable => some .spdUnt
  | _ => none

/-- Who has the bus mutex. -/
inductive BusHolder
  | forwarder
  | other (task : Nat)
  deriving DecidableEq, Repr

/-- The bus around one forwarder. `inFlight` is a command of it that has been submitted and is not on
the bus yet, and `polling` the serial-poll state the commands on the bus have left. -/
structure PolledBus where
  adapter : Adapter
  running : Bool := true
  holder : Option BusHolder := none
  stage : Option PollStage := none
  inFlight : Option PollCommand := none
  polling : Bool := false
  deriving DecidableEq, Repr

/-- `poll` gives the forwarder the bus for a poll and `awaited` returns from the call it is in;
`onBus` is the command in flight reaching the bus, whether or not its call is still waited for. -/
inductive PollAction
  | poll
  | onBus
  | awaited (ok : Bool)
  | channelEnd
  | acquire (task : Nat)
  | release (task : Nat)
  deriving DecidableEq, Repr

namespace PolledBus

/-- The forwarder's poll goes to its next call, or returns and lets the bus go. -/
def enter (s : PolledBus) : Option PollStage → PolledBus
  | some stage => { s with stage := some stage, inFlight := stage.command.or s.inFlight }
  | none => { s with stage := none, holder := none }

def step (s : PolledBus) : PollAction → Option PolledBus
  | .poll =>
    if s.running ∧ s.holder = none then
      some ({ s with holder := some .forwarder }.enter (some s.adapter.firstStage))
    else none
  | .onBus => match s.inFlight with
    | some command => some { s with inFlight := none, polling := command == .spe }
    | none => none
  | .awaited ok => match s.stage with
    | some stage =>
      -- a command that succeeded is on the bus
      if ok ∧ stage.command.isSome ∧ s.inFlight.isSome then none
      else some (s.enter (s.adapter.nextStage ok stage))
    | none => none
  | .channelEnd =>
    if s.running then some { s with
      running := false
      stage := none
      holder := if s.holder = some .forwarder then none else s.holder }
    else none
  | .acquire task => if s.holder = none then some { s with holder := some (.other task) } else none
  | .release task =>
    if s.holder = some (.other task) then some { s with holder := none } else none

/-- The poll is past its enable command and not past its disable command. -/
def exposed (inFlight : Option PollCommand) : PollStage → Bool
  | .enable => inFlight != some .spe
  | .disable => inFlight == some .spdUnt
  | .rearmSrq | .readStatusByte => false
  | _ => true

/-- The calls whose failure the poll does not answer with the disable command. -/
def unguarded : PollStage → Bool
  | .enable | .readyAcceptor | .writeGts | .requestByte | .disable => true
  | _ => false

/-- While a poll is between its two commands the channel does not end and no call fails that the poll
gives up on; and an enable command does not reach the bus once its call has been given up. -/
def restoresBus (s : PolledBus) : PollAction → Prop
  | .channelEnd => ∀ stage, s.stage = some stage → exposed s.inFlight stage = false
  | .awaited false => ∀ stage, s.stage = some stage → unguarded stage = true →
      exposed s.inFlight stage = false
  | .onBus => s.inFlight = some .spe → s.stage = some .enable
  | _ => True

/-- The bus is in serial-poll state only inside a poll that holds it and is between its commands. -/
structure Restored (s : PolledBus) : Prop where
  held : ∀ stage, s.stage = some stage → s.holder = some .forwarder
  polling : s.polling = true → ∃ stage, s.stage = some stage ∧ exposed s.inFlight stage = true

variable {s s' : PolledBus} {a : PollAction}

theorem restored_start (adapter : Adapter) : Restored { adapter } where
  held := nofun
  polling := nofun

/-- A poll holds the bus. -/
theorem Restored.stage_none (h : s.Restored) (hholder : s.holder ≠ some .forwarder) :
    s.stage = none := by
  cases hstage : s.stage with
  | none => rfl
  | some stage => exact absurd (h.held stage hstage) hholder

/-- Outside a poll the bus is not in serial-poll state. -/
theorem Restored.not_polling (h : s.Restored) (hstage : s.stage = none) : s.polling = false := by
  refine Bool.eq_false_iff.mpr fun hpolling => ?_
  obtain ⟨stage, hsome, -⟩ := h.polling hpolling
  rw [hstage] at hsome
  cases hsome

/-- A call that returns is not between the commands, or is followed by one that is. -/
theorem exposed_after (adapter : Adapter) {inFlight : Option PollCommand} {stage : PollStage}
    {ok : Bool} (hsent : ¬ (ok ∧ stage.command.isSome ∧ inFlight.isSome))
    (hfail : ok = false → unguarded stage = true → exposed inFlight stage = false) :
    exposed inFlight stage = false ∨ ∃ next, adapter.nextStage ok stage = some next ∧
      exposed (next.command.or inFlight) next = true := by
  cases ok with
  | false =>
    cases stage with
    | enable | readyAcceptor | writeGts | requestByte | disable => exact .inl (hfail rfl rfl)
    | rearmSrq | readStatusByte => exact .inl rfl
    | _ => exact .inr ⟨_, rfl, rfl⟩
  | true =>
    cases stage with
    | enable =>
      cases adapter <;> exact .inr ⟨_, rfl, rfl⟩
    | disable =>
      have hnone : inFlight = none := by simpa [PollStage.command] using hsent
      exact .inl (by rw [hnone]; rfl)
    | rearmSrq | readStatusByte => exact .inl rfl
    | _ => exact .inr ⟨_, rfl, rfl⟩

/-- A poll that goes on or returns leaves no serial-poll state it will not end. -/
private theorem enter_restored {next : Option PollStage} (hholder : s.holder = some .forwarder)
    (hnext : s.polling = true → ∃ stage, next = some stage ∧
      exposed (stage.command.or s.inFlight) stage = true) :
    (s.enter next).Restored := by
  cases next with
  | none =>
    refine ⟨nofun, fun hpolling => ?_⟩
    obtain ⟨stage, hstage, -⟩ := hnext hpolling
    cases hstage
  | some stage =>
    refine ⟨fun _ _ => hholder, fun hpolling => ⟨stage, rfl, ?_⟩⟩
    obtain ⟨_, hstage, hexposed⟩ := hnext hpolling
    obtain rfl := Option.some.inj hstage
    exact hexposed

theorem step_restored (h : s.Restored) (hg : s.restoresBus a) (hstep : s.step a = some s') :
    s'.Restored := by
  cases a with
  | poll =>
    simp only [step] at hstep
    split at hstep
    · rename_i hready
      obtain rfl := Option.some.inj hstep
      have hquiet := h.not_polling (h.stage_none (by rw [hready.2]; nofun))
      exact enter_restored rfl fun hpolling => absurd hpolling (by rw [hquiet]; nofun)
    · cases hstep
  | onBus =>
    simp only [step] at hstep
    split at hstep
    · rename_i command hflight
      obtain rfl := Option.some.inj hstep
      refine ⟨h.held, fun hpolling => ?_⟩
      obtain rfl := beq_iff_eq.mp hpolling
      exact ⟨.enable, hg hflight, rfl⟩
    · cases hstep
  | awaited ok =>
    simp only [step] at hstep
    split at hstep
    · rename_i stage hstage
      split at hstep
      · cases hstep
      · rename_i hsent
        obtain rfl := Option.some.inj hstep
        have hfail : ok = false → unguarded stage = true → exposed s.inFlight stage = false := by
          rintro rfl hunguarded
          exact hg stage hstage hunguarded
        refine enter_restored (h.held stage hstage) fun hpolling => ?_
        obtain ⟨_, hsome, hexposed⟩ := h.polling hpolling
        obtain rfl := Option.some.inj (hstage.symm.trans hsome)
        exact (exposed_after s.adapter hsent hfail).resolve_left (by rw [hexposed]; nofun)
    · cases hstep
  | channelEnd =>
    simp only [step] at hstep
    split at hstep
    · obtain rfl := Option.some.inj hstep
      refine ⟨nofun, fun hpolling => ?_⟩
      obtain ⟨stage, hstage, hexposed⟩ := h.polling hpolling
      rw [hg stage hstage] at hexposed
      cases hexposed
    · cases hstep
  | acquire task =>
    simp only [step] at hstep
    split at hstep
    · rename_i hfree
      obtain rfl := Option.some.inj hstep
      have hnone := h.stage_none (by rw [hfree]; nofun)
      exact ⟨fun stage hstage => absurd hstage (by rw [hnone]; nofun), h.polling⟩
    · cases hstep
  | release task =>
    simp only [step] at hstep
    split at hstep
    · rename_i hother
      obtain rfl := Option.some.inj hstep
      have hnone := h.stage_none (by rw [hother]; nofun)
      exact ⟨fun stage hstage => absurd hstage (by rw [hnone]; nofun), h.polling⟩
    · cases hstep

/-- In every run in which the channel does not end, and no call fails that the poll gives up on,
between the two commands of a poll, no other task has the bus in serial-poll state. -/
theorem polled_bus_restored_for_others {adapter : Adapter} {task : Nat}
    (h : Reach step restoresBus { adapter } s) (hother : s.holder = some (.other task)) :
    s.polling = false := by
  have hrestored : s.Restored := Reach.invariant h (restored_start adapter)
    fun _ _ _ hrestored hg hstep => step_restored hrestored hg hstep
  exact hrestored.not_polling (hrestored.stage_none (by rw [hother]; nofun))

/-- A poll whose standby fails restores the bus before the next task gets it. -/
theorem failed_standby_restored : ∃ s, Reach step restoresBus { adapter := .niUsbHs } s ∧
    s.holder = some (.other 1) ∧ s.polling = false := by
  have henabled : Reach step restoresBus { adapter := .niUsbHs } _ :=
    ((Reach.refl.tail (a := .poll) trivial rfl).tail (a := .onBus) (fun _ => rfl) rfl).tail
      (a := .awaited true) trivial rfl
  have hstandby := (henabled.tail (a := .awaited true) (by trivial) rfl).tail (a := .awaited false)
    (by intro stage hstage hguard; obtain rfl := Option.some.inj hstage; cases hguard) rfl
  have hdisable := (hstandby.tail (a := .awaited true) (by trivial) rfl).tail (a := .onBus)
    (by intro hflight; cases hflight) rfl
  have hrun := ((hdisable.tail (a := .awaited true) (by trivial) rfl).tail (a := .awaited true)
    (by trivial) rfl).tail (a := .acquire 1) (by trivial) rfl
  exact ⟨_, hrun, rfl, polled_bus_restored_for_others hrun rfl⟩

/-- The channel ends while the forwarder waits for the acceptor, after its enable command: the next
task finds every instrument in serial-poll mode. -/
theorem aborted_poll_leaves_bus_polling :
    ∃ s, Reach step anyStep { adapter := .niUsbHs } s ∧ s.holder = some (.other 1) ∧
      s.polling = true := by
  obtain ⟨s, hreach, htest⟩ := exists_reach_of_exec step { adapter := .niUsbHs }
    (fun s => s.holder == some (.other 1) && s.polling)
    [.poll, .onBus, .awaited true, .channelEnd, .acquire 1] (by decide)
  obtain ⟨hholder, hpolling⟩ := Bool.and_eq_true_iff.mp htest
  exact ⟨s, hreach, beq_iff_eq.mp hholder, hpolling⟩

end PolledBus
end Ugpibd.Hislip
