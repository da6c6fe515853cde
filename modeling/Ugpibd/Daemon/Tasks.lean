import Ugpibd.Daemon.BusOperations
import Ugpibd.Frontend.LockSpec
import Ugpibd.Library.Runs

/-! The daemon's tasks around one lock registry and one bus mutex. The runtime is single
threaded, so a step is one task's code from one await point to the next. -/
namespace Ugpibd.Daemon
open Frontend

/-- Where a task stands. A snapshot is the number of `notify_waiters` calls made when the task
subscribed: it has a wake-up pending once more have been made. -/
inductive Task
  | idle
  | requesting (resource : String) (holder : HolderId) (lockString : String) (snapshot : Nat)
  | parked (op : Op) (snapshot : Nat)
  | queued (op : Op) (tenure : Option (BusCall × Point))
  | onBus (op : Op) (call : Option BusCall) (point : Point)
  deriving DecidableEq, Repr

structure State where
  locks : LockRegistry := {}
  bus : Option Nat := none
  tasks : Nat → Task := fun _ => .idle

/-- One turn of a task. `expired` says that the deadline of its wait has passed. -/
inductive Action
  | request (task : Nat) (resource : String) (holder : HolderId) (lockString : String)
      (expired : Bool)
  | retry (task : Nat) (expired : Bool)
  | release (resource : String) (holder : HolderId)
  | releaseAll (holder : HolderId)
  | start (task : Nat) (op : Op) (expired : Bool)
  | recheck (task : Nat) (expired : Bool)
  | acquire (task : Nat) (choice : Choice)
  | complete (task : Nat) (reply : BusReply) (choice : Choice)
  | cancel (task : Nat)
  deriving DecidableEq, Repr

/-- May the operation do I/O right now? -/
def Op.mayProceed (op : Op) (locks : LockRegistry) : Bool :=
  match op.holder, op.pad with
  | some holder, some pad => locks.hasAccess (resourceKey pad) holder
  | _, _ => true

namespace State

def put (s : State) (t : Nat) (task : Task) : State :=
  { s with tasks := Function.update s.tasks t task }

/-- One turn of the `request` loop: subscribe, try, and wait on unless the deadline has passed. -/
def tryLock (s : State) (t : Nat) (resource : String) (holder : HolderId) (lockString : String)
    (expired : Bool) : State :=
  match s.locks.tryRequest resource holder lockString with
  | (some _, locks) => { s with locks }.put t .idle
  | (none, locks) => { s with locks }.put t
      (if expired then .idle else .requesting resource holder lockString s.locks.released)

/-- One turn at the gate: `wait_for_access`, or `acquire_access` and its bounded wait. -/
def passGate (s : State) (t : Nat) (op : Op) (expired : Bool) : State :=
  if op.gate = .ungated ∨ op.mayProceed s.locks = true then
    s.put t (if op.answeredWithoutBus then .idle else .queued op none)
  else match op.gate with
    | .wait => s.put t (.parked op s.locks.released)
    | .bounded => s.put t (if expired then .idle else .parked op s.locks.released)
    | .refuse | .ungated => s.put t .idle

def step (s : State) : Action → Option State
  | .request t resource holder lockString expired => match s.tasks t with
    | .idle => some (s.tryLock t resource holder lockString expired)
    | _ => none
  | .retry t expired => match s.tasks t with
    | .requesting resource holder lockString snapshot =>
      if snapshot < s.locks.released ∨ expired = true then
        some (s.tryLock t resource holder lockString expired)
      else none
    | _ => none
  | .release resource holder => some { s with locks := (s.locks.release resource holder).2 }
  | .releaseAll holder => some { s with locks := s.locks.releaseAll holder }
  | .start t op expired => match s.tasks t with
    | .idle => some (if op.answeredAtOnce then s else s.passGate t op expired)
    | _ => none
  | .recheck t expired => match s.tasks t with
    | .parked op snapshot =>
      if snapshot < s.locks.released ∨ (expired = true ∧ op.gate = .bounded) then
        some (s.passGate t op expired)
      else none
    | _ => none
  | .acquire t choice => match s.bus, s.tasks t with
    | none, .queued op tenure => match tenure.or (op.first choice) with
      | some (call, point) => some { s.put t (.onBus op (some call) point) with bus := some t }
      | none => some (s.put t .idle)
    | _, _ => none
  | .complete t reply choice => match s.tasks t with
    | .onBus op _ point => match op.after reply choice point with
      | .next call point => some (s.put t (.onBus op call point))
      | .rejoin call point => some { s.put t (.queued op (some (call, point))) with bus := none }
      | .finished => some { s.put t .idle with bus := none }
    | _ => none
  | .cancel t => some { s.put t .idle with bus := if s.bus = some t then none else s.bus }

variable {s s' : State} {a : Action}

@[simp] theorem put_locks (t : Nat) (task : Task) : (s.put t task).locks = s.locks := rfl

@[simp] theorem put_tasks_self (t : Nat) (task : Task) : (s.put t task).tasks t = task :=
  Function.update_self ..

theorem put_tasks_ne {t t' : Nat} (h : t' ≠ t) (task : Task) :
    (s.put t task).tasks t' = s.tasks t' :=
  Function.update_of_ne h ..

theorem put_tasks (t t' : Nat) (task : Task) :
    (s.put t task).tasks t' = if t' = t then task else s.tasks t' :=
  Function.update_apply ..

/-- A try at a lock: who makes it and what it asks for. -/
structure Attempt where
  task : Nat
  resource : String
  holder : HolderId
  lockString : String

/-- The try at a lock an action makes, if it makes one. -/
def attempt (s : State) : Action → Option Attempt
  | .request t resource holder lockString _ => some ⟨t, resource, holder, lockString⟩
  | .retry t _ => match s.tasks t with
    | .requesting resource holder lockString _ => some ⟨t, resource, holder, lockString⟩
    | _ => none
  | _ => none

/-- Everything a step can do. -/
inductive Effect (s : State) : Action → State → Prop
  | granted {a : Action} (tried : Attempt) (response : LockResponse) (locks : LockRegistry) :
      s.attempt a = some tried →
      s.locks.tryRequest tried.resource tried.holder tried.lockString = (some response, locks) →
      Effect s a ({ s with locks }.put tried.task .idle)
  | refused {a : Action} (tried : Attempt) (locks : LockRegistry) (task : Task) :
      s.attempt a = some tried →
      s.locks.tryRequest tried.resource tried.holder tried.lockString = (none, locks) →
      task = .idle ∨
        task = .requesting tried.resource tried.holder tried.lockString s.locks.released →
      Effect s a ({ s with locks }.put tried.task task)
  | release (resource : String) (holder : HolderId) :
      Effect s (.release resource holder) { s with locks := (s.locks.release resource holder).2 }
  | releaseAll (holder : HolderId) :
      Effect s (.releaseAll holder) { s with locks := s.locks.releaseAll holder }
  | queued {a : Action} (t : Nat) (op : Op) :
      (∃ expired, a = .start t op expired) ∨ (∃ snapshot, s.tasks t = .parked op snapshot) →
      op.gate = .ungated ∨ op.mayProceed s.locks = true →
      Effect s a (s.put t (.queued op none))
  | parked {a : Action} (t : Nat) (op : Op) :
      op.mayProceed s.locks = false → op.gated = true →
      Effect s a (s.put t (.parked op s.locks.released))
  | idle {a : Action} (t : Nat) (bus : Option Nat) :
      Effect s a { s.put t .idle with bus }
  | acquired (t : Nat) (op : Op) (tenure : Option (BusCall × Point)) (choice : Choice)
      (call : BusCall) (point : Point) :
      s.tasks t = .queued op tenure → tenure.or (op.first choice) = some (call, point) →
      Effect s (.acquire t choice) { s.put t (.onBus op (some call) point) with bus := some t }
  | next (t : Nat) (op : Op) (was : Option BusCall) (point : Point) (reply : BusReply)
      (choice : Choice) (call : Option BusCall) (point' : Point) :
      s.tasks t = .onBus op was point → op.after reply choice point = .next call point' →
      Effect s (.complete t reply choice) (s.put t (.onBus op call point'))
  | rejoin (t : Nat) (op : Op) (was : Option BusCall) (point : Point) (reply : BusReply)
      (choice : Choice) (call : BusCall) (point' : Point) :
      s.tasks t = .onBus op was point → op.after reply choice point = .rejoin call point' →
      Effect s (.complete t reply choice)
        { s.put t (.queued op (some (call, point'))) with bus := none }

private theorem tryLock_effect {t : Nat} {resource : String} {holder : HolderId}
    {lockString : String} (expired : Bool) (h : s.attempt a = some ⟨t, resource, holder, lockString⟩) :
    Effect s a (s.tryLock t resource holder lockString expired) := by
  unfold tryLock
  split
  · rename_i response locks hr
    exact .granted _ response locks h hr
  · rename_i locks hr
    refine .refused _ locks _ h hr ?_
    split
    · exact .inl rfl
    · exact .inr rfl

private theorem put_idle_effect (t : Nat) : Effect s a (s.put t .idle) := .idle t s.bus

private theorem passGate_effect {t : Nat} {op : Op} {expired : Bool}
    (h : (∃ expired, a = .start t op expired) ∨ ∃ snapshot, s.tasks t = .parked op snapshot) :
    Effect s a (s.passGate t op expired) := by
  unfold passGate
  split
  · rename_i hpass
    split
    · exact put_idle_effect t
    · exact .queued t op h hpass
  · rename_i hpass
    obtain ⟨hgate, hno⟩ := not_or.mp hpass
    have hparked : Effect s a (s.put t (.parked op s.locks.released)) :=
      .parked t op (by simpa using hno) (by simpa [Op.gated] using hgate)
    split
    · exact hparked
    · split
      · exact put_idle_effect t
      · exact hparked
    · exact put_idle_effect t
    · exact put_idle_effect t

/-- Every step is one of the listed effects. -/
theorem step_effect (h : s.step a = some s') : Effect s a s' := by
  cases a with
  | request t resource holder lockString expired =>
    simp only [step] at h
    split at h
    · obtain rfl := Option.some.inj h
      exact tryLock_effect expired rfl
    · cases h
  | retry t expired =>
    simp only [step] at h
    split at h
    · rename_i resource holder lockString snapshot ht
      split at h
      · obtain rfl := Option.some.inj h
        exact tryLock_effect expired (by simp [attempt, ht])
      · cases h
    · cases h
  | release resource holder =>
    obtain rfl := Option.some.inj h
    exact .release resource holder
  | releaseAll holder =>
    obtain rfl := Option.some.inj h
    exact .releaseAll holder
  | start t op expired =>
    simp only [step] at h
    split at h
    · rename_i ht
      obtain rfl := Option.some.inj h
      split
      · have hsame : s.put t .idle = s := by
          rw [put, ← ht, Function.update_eq_self]
        have he : Effect s (.start t op expired) (s.put t .idle) := put_idle_effect t
        rwa [hsame] at he
      · exact passGate_effect (.inl ⟨expired, rfl⟩)
    · cases h
  | recheck t expired =>
    simp only [step] at h
    split at h
    · rename_i op snapshot ht
      split at h
      · obtain rfl := Option.some.inj h
        exact passGate_effect (.inr ⟨snapshot, ht⟩)
      · cases h
    · cases h
  | acquire t choice =>
    simp only [step] at h
    split at h
    · rename_i op tenure hbus ht
      split at h
      · rename_i call point hcall
        obtain rfl := Option.some.inj h
        exact .acquired t op tenure choice call point ht hcall
      · obtain rfl := Option.some.inj h
        exact put_idle_effect t
    · cases h
  | complete t reply choice =>
    simp only [step] at h
    split at h
    · rename_i op was point ht
      split at h
      · rename_i call point' ha
        obtain rfl := Option.some.inj h
        exact .next t op was point reply choice call point' ht ha
      · rename_i call point' ha
        obtain rfl := Option.some.inj h
        exact .rejoin t op was point reply choice call point' ht ha
      · obtain rfl := Option.some.inj h
        exact .idle t none
    · cases h
  | cancel t =>
    obtain rfl := Option.some.inj h
    exact .idle t _

/-- The registry changes only by its own calls. -/
theorem step_noEmptyTable (h : s.step a = some s') (hne : s.locks.NoEmptyTable) :
    s'.locks.NoEmptyTable := by
  cases step_effect h with
  | granted tried response locks _ hr =>
    have := LockRegistry.apply_noEmptyTable hne (.request tried.resource tried.holder tried.lockString)
    rwa [LockRegistry.apply, hr] at this
  | refused tried locks task _ hr _ =>
    have := LockRegistry.apply_noEmptyTable hne (.request tried.resource tried.holder tried.lockString)
    rwa [LockRegistry.apply, hr] at this
  | release resource holder => exact LockRegistry.apply_noEmptyTable hne (.release resource holder)
  | releaseAll holder => exact LockRegistry.apply_noEmptyTable hne (.releaseAll holder)
  | queued | parked | idle | acquired | next | rejoin => exact hne

/-- What a step may make of one task, with the registry it leaves. -/
inductive Move (s : State) (a : Action) (t : Nat) (locks : LockRegistry) : Task → Prop
  | idle : Move s a t locks .idle
  | requesting (resource : String) (holder : HolderId) (lockString : String) (snapshot : Nat) :
      Move s a t locks (.requesting resource holder lockString snapshot)
  | parked (op : Op) (snapshot : Nat) : op.gated = true → Move s a t locks (.parked op snapshot)
  | queued (op : Op) : locks = s.locks → op.gate = .ungated ∨ op.mayProceed s.locks = true →
      (∃ expired, a = .start t op expired) ∨ (∃ snapshot, s.tasks t = .parked op snapshot) →
      Move s a t locks (.queued op none)
  | rejoin (op : Op) (was : Option BusCall) (point : Point) (reply : BusReply) (choice : Choice)
      (call : BusCall) (point' : Point) : locks = s.locks → s.tasks t = .onBus op was point →
      op.after reply choice point = .rejoin call point' →
      Move s a t locks (.queued op (some (call, point')))
  | acquired (op : Op) (tenure : Option (BusCall × Point)) (choice : Choice) (call : BusCall)
      (point : Point) : locks = s.locks → s.tasks t = .queued op tenure →
      tenure.or (op.first choice) = some (call, point) →
      Move s a t locks (.onBus op (some call) point)
  | next (op : Op) (was : Option BusCall) (point : Point) (reply : BusReply) (choice : Choice)
      (call : Option BusCall) (point' : Point) : locks = s.locks → s.tasks t = .onBus op was point →
      op.after reply choice point = .next call point' → Move s a t locks (.onBus op call point')

private theorem move_of_put {t t' : Nat} {task : Task}
    (hput : s'.tasks = Function.update s.tasks t' task) (h : Move s a t' s'.locks task) :
    s'.tasks t = s.tasks t ∨ Move s a t s'.locks (s'.tasks t) := by
  rw [hput]
  by_cases ht : t = t'
  · subst ht
    rw [Function.update_self]
    exact .inr h
  · exact .inl (Function.update_of_ne ht ..)

/-- A step leaves a task where it stands or makes one of the listed moves with it. -/
theorem task_step (hstep : s.step a = some s') (t : Nat) :
    s'.tasks t = s.tasks t ∨ Move s a t s'.locks (s'.tasks t) := by
  cases step_effect hstep with
  | granted | idle => exact move_of_put rfl .idle
  | refused tried locks task _ _ htask =>
    refine move_of_put rfl ?_
    rcases htask with rfl | rfl
    · exact .idle
    · exact .requesting ..
  | release | releaseAll => exact .inl rfl
  | queued t' op hfrom hpass => exact move_of_put rfl (.queued op rfl hpass hfrom)
  | parked t' op _ hgated => exact move_of_put rfl (.parked op _ hgated)
  | acquired t' op tenure choice call point hold hcall =>
    exact move_of_put rfl (.acquired op tenure choice call point rfl hold hcall)
  | next t' op was point reply choice call point' hold hafter =>
    exact move_of_put rfl (.next op was point reply choice call point' rfl hold hafter)
  | rejoin t' op was point reply choice call point' hold hafter =>
    exact move_of_put rfl (.rejoin op was point reply choice call point' rfl hold hafter)

/-- How a task comes to wait for the bus. -/
theorem queued_step {t : Nat} {op : Op} {tenure : Option (BusCall × Point)}
    (hstep : s.step a = some s') (h : s'.tasks t = .queued op tenure) :
    s.tasks t = .queued op tenure ∨
    (s'.locks = s.locks ∧ tenure = none ∧ (op.gate = .ungated ∨ op.mayProceed s.locks = true) ∧
      ((∃ expired, a = .start t op expired) ∨ ∃ snapshot, s.tasks t = .parked op snapshot)) ∨
    (s'.locks = s.locks ∧ ∃ was point reply choice call point', s.tasks t = .onBus op was point ∧
      op.after reply choice point = .rejoin call point' ∧ tenure = some (call, point')) := by
  obtain hsame | hmove := task_step hstep t
  · exact .inl (hsame ▸ h)
  · rw [h] at hmove
    cases hmove with
    | queued _ hlocks hpass hfrom => exact .inr (.inl ⟨hlocks, rfl, hpass, hfrom⟩)
    | rejoin _ was point reply choice call point' hlocks hold hafter =>
      exact .inr (.inr ⟨hlocks, was, point, reply, choice, call, point', hold, hafter, rfl⟩)

/-- How a task comes to have a call under way on the bus. -/
theorem onBus_step {t : Nat} {op : Op} {call : Option BusCall} {point : Point}
    (hstep : s.step a = some s') (h : s'.tasks t = .onBus op call point) :
    s.tasks t = .onBus op call point ∨
    (s'.locks = s.locks ∧ ∃ tenure choice called, s.tasks t = .queued op tenure ∧
      call = some called ∧ tenure.or (op.first choice) = some (called, point)) ∨
    (s'.locks = s.locks ∧ ∃ was point' reply choice, s.tasks t = .onBus op was point' ∧
      op.after reply choice point' = .next call point) := by
  obtain hsame | hmove := task_step hstep t
  · exact .inl (hsame ▸ h)
  · rw [h] at hmove
    cases hmove with
    | acquired _ tenure choice called _ hlocks hold hcall =>
      exact .inr (.inl ⟨hlocks, tenure, choice, called, hold, rfl, hcall⟩)
    | next _ was point' reply choice _ _ hlocks hold hafter =>
      exact .inr (.inr ⟨hlocks, was, point', reply, choice, hold, hafter⟩)

/-- Only gated operations park. -/
theorem parked_step {t : Nat} {op : Op} {snapshot : Nat} (hstep : s.step a = some s')
    (h : s'.tasks t = .parked op snapshot) : s.tasks t = .parked op snapshot ∨ op.gated = true := by
  obtain hsame | hmove := task_step hstep t
  · exact .inl (hsame ▸ h)
  · rw [h] at hmove
    cases hmove with
    | parked _ _ hgated => exact .inr hgated

end State
end Ugpibd.Daemon
