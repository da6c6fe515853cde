import Ugpibd.Library.Runs
import Ugpibd.Vxi11.Links

/-! The calls in progress on one link and the aborts that name it. The link has one in-progress mark
and one abort flag for all of them. The daemon runs on one thread, so that a step runs a call from
one await to the next. -/
namespace Ugpibd.Vxi11.Abort

/-- The abortable procedures; trigger, clear, remote and local are one function of the source. -/
inductive Procedure
  | deviceWrite
  | deviceRead
  | deviceReadstb
  | deviceSimple
  | deviceDocmd
  | deviceLock
  deriving DecidableEq, Repr

/-- Writes and reads are made of several bus transactions and test the flag before each. -/
def Procedure.looped : Procedure → Bool
  | .deviceWrite | .deviceRead => true
  | _ => false

/-- Does a call that is done with its last transaction look at the flag once more? -/
def Procedure.testsAtEnd (error : ErrorCode) : Procedure → Bool
  | .deviceWrite => error == .noError
  | .deviceRead => false
  | _ => true

/-- Where a call is: waiting for another holder's lock at the gate, or in `device_lock`; waiting for
the bus; in a bus transaction; holding the bus until a read's slice is over; or done. -/
inductive CallPhase
  | gate
  | lockWait
  | busWait
  | onBus
  | pacing
  | returned (error : ErrorCode)
  deriving DecidableEq, Repr

namespace CallPhase

def windowOpen : CallPhase → Bool
  | .lockWait | .busWait | .onBus | .pacing => true
  | _ => false

def inProgress : CallPhase → Bool
  | .returned _ => false
  | _ => true

/-- Waiting for a lock or for the bus. -/
def waits : CallPhase → Bool
  | .gate | .lockWait | .busWait => true
  | _ => false

theorem inProgress_of_windowOpen {phase : CallPhase} (h : phase.windowOpen = true) :
    phase.inProgress = true := by
  cases phase <;> first | rfl | cases h

end CallPhase

/-- A call. What follows its phase is not part of the program: whether an abort has named the link
during the call, found it waiting, was accepted during it, and with its window open; how many bus
transactions it has started, and whether one of them after it was named. -/
structure Call where
  procedure : Procedure
  phase : CallPhase
  named : Bool := false
  waited : Bool := false
  accepted : Bool := false
  delivered : Bool := false
  transactions : Nat := 0
  late : Bool := false
  deriving DecidableEq, Repr

inductive BusOwner
  | free
  | call (c : Nat)
  | other
  deriving DecidableEq, Repr

/-- One link: the mark, the flag, the permit of `abort_notify`, and its calls; and the bus. -/
structure LinkCalls where
  inFlight : Bool := false
  aborted : Bool := false
  permit : Bool := false
  bus : BusOwner := .free
  calls : Nat → Option Call := fun _ => none

/-- An error that is not the answer to an abort. -/
abbrev PlainError := { error : ErrorCode // error ≠ .abort }

/-- What a call finds at its beginning and behind the gate: nothing in its way, a lock to wait for,
an answer before its window is open, or one inside it, where `tests` says whether the flag is looked
at before it is given. -/
inductive Admission
  | passed
  | waits
  | answered (error : PlainError)
  | answeredInside (error : PlainError) (tests : Bool)
  deriving DecidableEq, Repr

/-- Does a call so admitted open its window? -/
def Admission.opens (procedure : Procedure) : Admission → Bool
  | .passed | .answeredInside .. => true
  | .waits => procedure == .deviceLock
  | .answered _ => false

/-- What a bus transaction or a pause ends in: another turn of the loop, with its deadline passed or
not; a pause; the end of the transfer; or a return that does not look at the flag. -/
inductive Outcome
  | again (expired : Bool)
  | pause
  | done (error : PlainError)
  | early (error : PlainError)
  deriving DecidableEq, Repr

inductive CallAction
  | start (c : Nat) (procedure : Procedure) (admission : Admission)
  | admitted (c : Nat) (admission : Admission)
  | acquire (c : Nat) (expired : Bool)
  | complete (c : Nat) (outcome : Outcome)
  | resume (c : Nat) (outcome : Outcome)
  | lockWake (c : Nat)
  | lockDone (c : Nat) (granted : Bool)
  | abort
  | busTaken
  | busFreed
  deriving DecidableEq, Repr

/-- What an abort leaves on a call in progress. -/
def Call.mark (accepted : Bool) (call : Call) : Call :=
  if call.phase.inProgress then { call with
    named := true
    waited := call.waited || call.phase.waits
    accepted := call.accepted || accepted
    delivered := call.delivered || accepted && call.phase.windowOpen }
  else call

theorem Call.mark_inProgress {call : Call} {accepted : Bool}
    (h : call.phase.inProgress = true) : call.mark accepted = { call with
      named := true
      waited := call.waited || call.phase.waits
      accepted := call.accepted || accepted
      delivered := call.delivered || accepted && call.phase.windowOpen } :=
  if_pos h

@[simp] theorem Call.mark_phase {call : Call} {accepted : Bool} :
    (call.mark accepted).phase = call.phase := by
  unfold Call.mark
  split <;> rfl

namespace LinkCalls

def put (s : LinkCalls) (c : Nat) (call : Call) : LinkCalls :=
  { s with calls := Function.update s.calls c (some call) }

/-- The window opens with the mark. -/
def openWindow (s : LinkCalls) (c : Nat) (call : Call) (phase : CallPhase) : LinkCalls :=
  { s.put c { call with phase } with inFlight := true }

/-- The call returns: the bus is let go, and dropping the window resets the mark and the flag. -/
def finish (s : LinkCalls) (c : Nat) (call : Call) (error : ErrorCode) : LinkCalls :=
  { s.put c { call with phase := .returned error } with
    inFlight := false
    aborted := false
    bus := if s.bus = .call c then .free else s.bus }

/-- A bus transaction begins. -/
def transact (s : LinkCalls) (c : Nat) (call : Call) : LinkCalls :=
  { s.put c { call with
      phase := .onBus
      transactions := call.transactions + 1
      late := call.late || call.named } with
    bus := .call c }

/-- The top of the write and read loops. -/
def loopTop (s : LinkCalls) (c : Nat) (call : Call) (expired : Bool) : LinkCalls :=
  if s.aborted then s.finish c call .abort
  else if expired then s.finish c call .ioTimeout
  else s.transact c call

/-- What a call returns, having looked at the flag or not. -/
def result (s : LinkCalls) (tests : Bool) (error : PlainError) : ErrorCode :=
  if tests && s.aborted then .abort else error.1

def enter (s : LinkCalls) (c : Nat) (call : Call) : Admission → LinkCalls
  | .passed => match call.procedure with
    | .deviceLock => s.finish c call .noError
    | _ => s.openWindow c call .busWait
  | .waits => match call.procedure with
    | .deviceLock => s.openWindow c call .lockWait
    | _ => s.put c { call with phase := .gate }
  | .answered error => s.put c { call with phase := .returned error.1 }
  | .answeredInside error tests => s.finish c call (s.result tests error)

/-- An abort that names the link is accepted while the mark is up. -/
def deviceAbort (s : LinkCalls) : LinkCalls :=
  { s with
    aborted := s.aborted || s.inFlight
    permit := s.permit || s.inFlight
    calls := fun c => (s.calls c).map (Call.mark s.inFlight) }

def step (s : LinkCalls) : CallAction → Option LinkCalls
  | .start c procedure admission => match s.calls c with
    | none => some (s.enter c { procedure, phase := .gate } admission)
    | some _ => none
  | .admitted c admission => match s.calls c with
    | some call =>
      if call.phase = .gate ∧ admission ≠ .waits then some (s.enter c call admission) else none
    | none => none
  | .acquire c expired => match s.calls c with
    | some call =>
      if call.phase = .busWait ∧ s.bus = .free then
        some (if call.procedure.looped then s.loopTop c call expired else s.transact c call)
      else none
    | none => none
  | .complete c outcome => match s.calls c with
    | some call =>
      if call.phase = .onBus then match outcome with
        | .again expired => if call.procedure.looped then some (s.loopTop c call expired) else none
        | .pause =>
          if call.procedure = .deviceRead then some (s.put c { call with phase := .pacing }) else none
        | .done error =>
          some (s.finish c call (s.result (call.procedure.testsAtEnd error.1) error))
        | .early error =>
          if call.procedure = .deviceDocmd then some (s.finish c call error.1) else none
      else none
    | none => none
  | .resume c outcome => match s.calls c with
    | some call =>
      if call.phase = .pacing then match outcome with
        | .again expired => some (s.loopTop c call expired)
        | .done error => some (s.finish c call error.1)
        | _ => none
      else none
    | none => none
  | .lockWake c => match s.calls c with
    | some call =>
      if call.phase = .lockWait ∧ s.permit then
        -- a wake-up without an abort is left over from one that was discarded
        some (if s.aborted then { s with permit := false }.finish c call .abort
          else { s with permit := false })
      else none
    | none => none
  | .lockDone c granted => match s.calls c with
    | some call =>
      if call.phase = .lockWait then
        some (s.finish c call (if granted then .noError else .deviceLockedByAnotherLink))
      else none
    | none => none
  | .abort => some s.deviceAbort
  | .busTaken => if s.bus = .free then some { s with bus := .other } else none
  | .busFreed => if s.bus = .other then some { s with bus := .free } else none

/-- A call with an open window. -/
def Windowed (s : LinkCalls) (c : Nat) (call : Call) : Prop :=
  s.calls c = some call ∧ call.phase.windowOpen = true

/-- Everything a step can do. -/
inductive Effect (s : LinkCalls) : CallAction → LinkCalls → Prop
  | start {c : Nat} {procedure : Procedure} {admission : Admission} : s.calls c = none →
      Effect s (.start c procedure admission) (s.enter c { procedure, phase := .gate } admission)
  | admitted {c : Nat} {call : Call} {admission : Admission} : s.calls c = some call →
      call.phase = .gate → Effect s (.admitted c admission) (s.enter c call admission)
  | loop {a : CallAction} {c : Nat} {call : Call} (expired : Bool) : s.calls c = some call →
      call.phase = .busWait ∨ call.phase = .onBus ∨ call.phase = .pacing →
      Effect s a (s.loopTop c call expired)
  | transact {a : CallAction} {c : Nat} {call : Call} : s.calls c = some call →
      call.phase = .busWait → call.procedure.looped = false → Effect s a (s.transact c call)
  | pause {a : CallAction} {c : Nat} {call : Call} : s.calls c = some call →
      call.phase = .onBus → Effect s a (s.put c { call with phase := .pacing })
  | done {a : CallAction} {c : Nat} {call : Call} (tests : Bool) (error : PlainError) :
      s.calls c = some call → call.phase = .onBus ∨ call.phase = .pacing →
      Effect s a (s.finish c call (s.result tests error))
  | lockAbort {c : Nat} {call : Call} : s.calls c = some call → call.phase = .lockWait →
      s.aborted = true → Effect s (.lockWake c) ({ s with permit := false }.finish c call .abort)
  | lockIdle {c : Nat} {call : Call} : s.calls c = some call → call.phase = .lockWait →
      s.aborted = false → Effect s (.lockWake c) { s with permit := false }
  | lockDone {c : Nat} {call : Call} {granted : Bool} (error : PlainError) :
      s.calls c = some call → call.phase = .lockWait →
      Effect s (.lockDone c granted) (s.finish c call error.1)
  | abort : Effect s .abort s.deviceAbort
  | bus {a : CallAction} (bus : BusOwner) : Effect s a { s with bus }

variable {s s' : LinkCalls} {a : CallAction} {c c' : Nat} {call call' : Call} {error : ErrorCode}

private theorem complete_effect {outcome : Outcome} (hcall : s.calls c = some call)
    (hstep : s.step (.complete c outcome) = some s') : Effect s (.complete c outcome) s' := by
  simp only [step, hcall] at hstep
  split at hstep
  · rename_i hphase
    split at hstep
    · split at hstep
      · obtain rfl := Option.some.inj hstep
        exact .loop _ hcall (.inr (.inl hphase))
      · cases hstep
    · split at hstep
      · obtain rfl := Option.some.inj hstep
        exact .pause hcall hphase
      · cases hstep
    · obtain rfl := Option.some.inj hstep
      exact .done _ _ hcall (.inl hphase)
    · rename_i error
      split at hstep
      · obtain rfl := Option.some.inj hstep
        exact .done false error hcall (.inl hphase)
      · cases hstep
  · cases hstep

private theorem resume_effect {outcome : Outcome} (hcall : s.calls c = some call)
    (hstep : s.step (.resume c outcome) = some s') : Effect s (.resume c outcome) s' := by
  simp only [step, hcall] at hstep
  split at hstep
  · rename_i hphase
    split at hstep
    · obtain rfl := Option.some.inj hstep
      exact .loop _ hcall (.inr (.inr hphase))
    · rename_i error
      obtain rfl := Option.some.inj hstep
      exact .done false error hcall (.inr hphase)
    · cases hstep
  · cases hstep

/-- What a call of its own does at a step. -/
private theorem call_effect (hcall : s.calls c = some call)
    (ha : (∃ admission, a = .admitted c admission) ∨ (∃ expired, a = .acquire c expired) ∨
      a = .lockWake c ∨ ∃ granted, a = .lockDone c granted)
    (hstep : s.step a = some s') : Effect s a s' := by
  rcases ha with ⟨admission, rfl⟩ | ⟨expired, rfl⟩ | rfl | ⟨granted, rfl⟩ <;>
    simp only [step, hcall] at hstep <;> split at hstep
  · rename_i hgate
    obtain rfl := Option.some.inj hstep
    exact .admitted hcall hgate.1
  · cases hstep
  · rename_i hwait
    obtain rfl := Option.some.inj hstep
    split
    · exact .loop expired hcall (.inl hwait.1)
    · rename_i hlooped
      exact .transact hcall hwait.1 (Bool.eq_false_iff.mpr hlooped)
  · cases hstep
  · rename_i hwait
    obtain rfl := Option.some.inj hstep
    split
    · rename_i habort
      exact .lockAbort hcall hwait.1 habort
    · rename_i habort
      exact .lockIdle hcall hwait.1 (Bool.eq_false_iff.mpr habort)
  · cases hstep
  · rename_i hwait
    obtain rfl := Option.some.inj hstep
    cases granted with
    | true => exact .lockDone ⟨.noError, nofun⟩ hcall hwait
    | false => exact .lockDone ⟨.deviceLockedByAnotherLink, nofun⟩ hcall hwait
  · cases hstep

theorem step_effect (hstep : s.step a = some s') : Effect s a s' := by
  cases a with
  | start c procedure admission =>
    simp only [step] at hstep
    split at hstep
    · rename_i hnew
      obtain rfl := Option.some.inj hstep
      exact .start hnew
    · cases hstep
  | abort =>
    obtain rfl := Option.some.inj hstep
    exact .abort
  | busTaken | busFreed =>
    simp only [step] at hstep
    split at hstep
    · obtain rfl := Option.some.inj hstep
      exact .bus _
    · cases hstep
  | admitted c _ | acquire c _ | complete c _ | resume c _ | lockWake c | lockDone c _ =>
    cases hcall : s.calls c with
    | none =>
      simp only [step, hcall] at hstep
      cases hstep
    | some call =>
      first
        | exact complete_effect hcall hstep
        | exact resume_effect hcall hstep
        | exact call_effect hcall (by simp) hstep

@[simp] theorem put_calls_self : (s.put c call).calls c = some call := Function.update_self ..

theorem put_calls_ne (h : c' ≠ c) : (s.put c call).calls c' = s.calls c' :=
  Function.update_of_ne h ..

/-- The calls of a state in which one of them was replaced. -/
theorem put_calls_cases (h : (s.put c call).calls c' = some call') :
    (c' = c ∧ call' = call) ∨ (c' ≠ c ∧ s.calls c' = some call') := by
  by_cases hc : c' = c
  · subst hc
    rw [put_calls_self] at h
    exact .inl ⟨rfl, (Option.some.inj h).symm⟩
  · rw [put_calls_ne hc] at h
    exact .inr ⟨hc, h⟩

theorem deviceAbort_calls (h : s.deviceAbort.calls c = some call) :
    ∃ old, s.calls c = some old ∧ call = old.mark s.inFlight := by
  obtain ⟨old, hold, rfl⟩ := Option.map_eq_some_iff.mp h
  exact ⟨old, hold, rfl⟩

/-- A property of every call of the link. -/
def Each (P : Call → Prop) (s : LinkCalls) : Prop := ∀ c call, s.calls c = some call → P call

namespace Each
variable {P : Call → Prop}

theorem start : Each P {} := by
  intro c call hcalls
  cases hcalls

/-- One call is replaced. Also for the end of a call, its window's opening and a transaction, which
replace one call beside the link's own fields. -/
theorem put (h : Each P s) (hcall : P call) : Each P (s.put c call) := by
  intro c' call' hcalls
  rcases put_calls_cases hcalls with ⟨-, rfl⟩ | ⟨-, hcalls⟩
  · exact hcall
  · exact h c' call' hcalls

theorem enter {admission : Admission} (h : Each P s) (hcall : ∀ phase, P { call with phase }) :
    Each P (s.enter c call admission) := by
  cases admission with
  | passed | waits =>
    unfold LinkCalls.enter
    dsimp only
    split <;> exact h.put (hcall _)
  | answered error => exact h.put (hcall _)
  | answeredInside error tests => exact h.put (hcall _)

theorem loopTop {expired : Bool} (h : Each P s)
    (habort : s.aborted = true → P { call with phase := .returned .abort })
    (htimeout : s.aborted = false → P { call with phase := .returned .ioTimeout })
    (hgo : s.aborted = false → Each P (s.transact c call)) : Each P (s.loopTop c call expired) := by
  unfold LinkCalls.loopTop
  split
  · rename_i hflag
    exact h.put (habort hflag)
  · rename_i hflag
    have hflag : s.aborted = false := Bool.eq_false_iff.mpr hflag
    split
    · exact h.put (htimeout hflag)
    · exact hgo hflag

theorem deviceAbort (h : ∀ c call, s.calls c = some call → P (call.mark s.inFlight)) :
    Each P s.deviceAbort := by
  intro c call hcalls
  obtain ⟨old, hold, rfl⟩ := deviceAbort_calls hcalls
  exact h c old hold

end Each
end LinkCalls
end Ugpibd.Vxi11.Abort
