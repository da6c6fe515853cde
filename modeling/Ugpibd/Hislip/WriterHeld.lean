import Ugpibd.Hislip.ParkedSession

/-! Who has the writer of a channel, and what it is waiting for. -/
namespace Ugpibd.Hislip
open Frontend Library

/-- The tasks of the synchronous loop in which it may have the writer. -/
def SyncTask.hasWriter : SyncTask → Bool
  | .sending .. | .writing .. => true
  | _ => false

/-- The loop has no writer while it is at the instrument. -/
theorem SyncTask.op_of_hasWriter {task : SyncTask} (h : task.hasWriter) : task.op = none := by
  cases task <;> first | rfl | cases h

theorem SyncTask.hasWriter_of_op {task : SyncTask} (h : task.op.isSome) :
    task.hasWriter = false := by
  cases task <;> first | rfl | cases h

/-- The tasks of the asynchronous loop in which it has the writer. -/
def AsyncTask.hasWriter : AsyncTask → Bool
  | .parked _ | .onBus _ | .writing .. => true
  | _ => false

namespace SessionTasks

/-- The task waits for another holder's lock to be released. -/
def waitsForLock (s : SessionTasks) : TaskName → Prop
  | .syncLoop => ∃ snapshot, s.access = .parked snapshot
  | .asyncLoop => (∃ msg lockString snapshot, s.async = .requesting msg lockString snapshot) ∨
      ∃ snapshot, s.async = .parked snapshot
  | .pusher _ => False

/-- Runs in which a device clear is handled only when the session has access. -/
def clearsWithAccess (s : SessionTasks) : TaskAction → Prop
  | .async .acquire => ∀ msg lockAnswer, s.async = .queued (.ok msg) lockAnswer →
      msg.messageType = .asyncDeviceClear → s.hasAccess
  | _ => True

/-- The synchronous channel's writer is with its loop, in a task that writes, or with its pusher. -/
structure SyncWriter (s : SessionTasks) : Prop where
  parked : ∀ snapshot, s.access = .parked snapshot → s.channel.task.op.isSome
  owner : ∀ name, s.writer .sync = some name →
    (name = .syncLoop ∧ s.channel.task.hasWriter) ∨
    (name = .pusher .syncFatalPusher ∧ ∃ message, s.pushers .syncFatalPusher = .writing message)

/-- The asynchronous channel's writer is with its loop or with one of its pushers. -/
structure AsyncWriter (s : SessionTasks) : Prop where
  owner : ∀ name, s.writer .async = some name →
    (name = .asyncLoop ∧ s.async.hasWriter) ∨
    ∃ p message, name = .pusher p ∧ p.channel = .async ∧ s.pushers p = .writing message
  pushers : s.async.stopped → ∀ p, p.channel = .async → s.pushers p = .ended

section
variable {config : SessionConfig} {s s' : SessionTasks} {a : TaskAction}

theorem SyncWriter.of_syncSame (h : s.SyncWriter) (hsame : SyncSame s s') : s'.SyncWriter where
  parked := by
    rw [hsame.access, hsame.task]
    exact h.parked
  owner := by
    rw [hsame.writer, hsame.task, hsame.pusher]
    exact h.owner

theorem AsyncWriter.of_asyncSame (h : s.AsyncWriter) (hsame : AsyncSame s s') :
    s'.AsyncWriter where
  owner := by
    rw [hsame.writer, hsame.async]
    intro name hname
    refine (h.owner name hname).imp_right ?_
    rintro ⟨p, message, rfl, hp, hwriting⟩
    exact ⟨p, message, rfl, hp, (hsame.pushers p hp).trans hwriting⟩
  pushers := by
    rw [hsame.async]
    exact fun hstopped p hp => (hsame.pushers p hp).trans (h.pushers hstopped p hp)

namespace SyncWriter

/-- A loop whose task does not write has not got the writer. -/
theorem loop_free (h : s.SyncWriter) (htask : s.channel.task.hasWriter = false) :
    s.writer .sync ≠ some .syncLoop := by
  intro hown
  rcases h.owner _ hown with ⟨-, hhas⟩ | ⟨hother, -⟩
  · rw [htask] at hhas
    cases hhas
  · cases hother

/-- And one whose task is not for the instrument is not parked. -/
theorem not_parked (h : s.SyncWriter) (htask : s.channel.task.op = none) (snapshot : Nat) :
    s.access ≠ .parked snapshot := by
  intro hparked
  have hop := h.parked snapshot hparked
  rw [htask] at hop
  cases hop

/-- What the loop does without the writer leaves the writer where it is. -/
theorem of_free (h : s.SyncWriter) (hfree : s.writer .sync ≠ some .syncLoop)
    (hwriter : s'.writer .sync = s.writer .sync) (hpushers : s'.pushers = s.pushers)
    (hparked : ∀ snapshot, s'.access = .parked snapshot → s'.channel.task.op.isSome) :
    s'.SyncWriter where
  parked := hparked
  owner := by
    rw [hwriter, hpushers]
    intro name hname
    rcases h.owner name hname with ⟨rfl, -⟩ | hother
    · exact absurd hname hfree
    · exact .inr hother

theorem endSync (s : SessionTasks) : s.endSync.SyncWriter where
  parked := fun _ h => by cases h
  owner := fun _ h => by cases h

theorem putChannel (h : s.SyncWriter) (channel : SyncChannel)
    (hfree : s.writer .sync ≠ some .syncLoop)
    (hnot : ∀ snapshot, s.access ≠ .parked snapshot) : (s.putChannel channel).SyncWriter := by
  unfold SessionTasks.putChannel
  split_ifs
  · exact endSync _
  · exact h.of_free hfree rfl rfl fun snapshot hparked => absurd hparked (hnot snapshot)

theorem askAccess (h : s.SyncWriter) : s.askAccess.SyncWriter := by
  unfold SessionTasks.askAccess
  split
  · rename_i op hop
    have hsome : s.channel.task.op.isSome := by simp [hop]
    split_ifs
    · exact ⟨fun _ _ => hsome, h.owner⟩
    · exact ⟨fun _ _ => hsome, h.owner⟩
  · exact h

end SyncWriter

theorem syncStep_syncWriter {a : SyncLoopAction} (h : s.SyncWriter)
    (hs : s.syncStep config a = some s') : s'.SyncWriter := by
  cases syncStep_effect hs with
  | read a channel hopen htask =>
    exact (h.putChannel channel (h.loop_free (by rw [htask]; rfl))
      (h.not_parked (by rw [htask]; rfl))).askAccess
  | doneOnBus a channel hgranted hop =>
    exact h.of_free (h.loop_free (SyncTask.hasWriter_of_op hop)) rfl rfl fun _ hparked => by cases hparked
  | beginReply channel hfree hstep =>
    cases SyncChannel.step_effect hstep with
    | beginReply requestId data serviceRequest htask =>
      refine ⟨fun snapshot hparked => ?_, fun name hname => .inl ?_⟩
      · exact absurd hparked (h.not_parked (by rw [htask]; rfl) snapshot)
      · exact ⟨(Option.some.inj hname).symm, rfl⟩
  | sendNext channel hstep =>
    cases SyncChannel.step_effect hstep with
    | sendNext requestId piece rest serviceRequest htask =>
      refine ⟨fun snapshot hparked => ?_, fun name hname => ?_⟩
      · exact absurd hparked (h.not_parked (by rw [htask]; rfl) snapshot)
      · exact (h.owner name hname).imp_left fun hown => ⟨hown.1, rfl⟩
  | wrote a channel hown =>
    have htask : s.channel.task.op = none := by
      rcases h.owner _ hown with ⟨-, hhas⟩ | ⟨hother, -⟩
      · exact SyncTask.op_of_hasWriter hhas
      · cases hother
    have hgave : (s.giveUp .sync).SyncWriter := ⟨h.parked, fun _ hname => by cases hname⟩
    exact hgave.putChannel channel (by simp [giveUp]) (h.not_parked htask)
  | retry => exact h.askAccess
  | acquire message ends htask =>
    refine ⟨h.parked, fun name hname => .inl ⟨(Option.some.inj hname).symm, ?_⟩⟩
    change s.channel.task.hasWriter = true
    rw [htask]
    rfl
  | gone => exact .endSync _

/-- Handling a message keeps the writer until there is nothing more to write. -/
theorem handle_writer (lockAnswer : Option LockResponse) (incoming : Except Error Message) :
    ((s.handle config lockAnswer incoming).async.hasWriter ∧
      (s.handle config lockAnswer incoming).writer = s.writer) ∨
    (s.handle config lockAnswer incoming).writer .async = none := by
  unfold handle
  split
  · exact .inl ⟨rfl, rfl⟩
  · split
    case h_4 =>
      unfold askClear
      split_ifs <;> exact .inl ⟨rfl, rfl⟩
    case h_7 | h_8 => exact .inr rfl
    case h_1 => split <;> exact .inl ⟨rfl, rfl⟩
    all_goals first
      | exact .inl ⟨rfl, rfl⟩
      | split_ifs <;> exact .inl ⟨rfl, rfl⟩

/-- Only a device clear without access is parked. -/
theorem handle_parked {lockAnswer : Option LockResponse} {incoming : Except Error Message}
    {snapshot : Nat} (h : (s.handle config lockAnswer incoming).async = .parked snapshot) :
    ∃ msg, incoming = .ok msg ∧ msg.messageType = .asyncDeviceClear ∧ s.hasAccess = false := by
  unfold handle at h
  split at h
  · cases h
  · rename_i msg
    split at h
    case h_4 htype =>
      refine ⟨msg, rfl, htype, ?_⟩
      unfold askClear at h
      split_ifs at h with haccess
      · cases h
      · exact Bool.eq_false_iff.mpr haccess
    case h_7 | h_8 => cases h
    case h_1 => split at h <;> cases h
    all_goals first
      | cases h
      | split_ifs at h <;> cases h

namespace AsyncWriter

/-- A step of the loop in a task without the writer leaves the writer with the pushers. -/
theorem owner_of_free (h : s.AsyncWriter) (hfree : s.async.hasWriter = false)
    (hwriter : s'.writer = s.writer) (hpushers : s'.pushers = s.pushers) (name : TaskName)
    (hname : s'.writer .async = some name) :
    ∃ p message, name = .pusher p ∧ p.channel = .async ∧ s'.pushers p = .writing message := by
  rw [hwriter] at hname
  rw [hpushers]
  rcases h.owner name hname with ⟨-, hhas⟩ | hpusher
  · rw [hfree] at hhas
    cases hhas
  · exact hpusher

/-- A session without an asynchronous loop has nobody to take its writer. -/
theorem unbound (h : s.AsyncWriter) (hasync : s.async = .unbound) : s.writer .async = none := by
  cases hwriter : s.writer .async with
  | none => rfl
  | some name =>
    rcases h.owner name hwriter with ⟨-, hhas⟩ | ⟨p, message, -, hp, hwriting⟩
    · rw [hasync] at hhas
      cases hhas
    · rw [h.pushers (by rw [hasync]; rfl) p hp] at hwriting
      cases hwriting

end AsyncWriter

theorem tryLock_writer (msg : Message) (lockString : String) (expired : Bool) :
    (s.tryLock msg lockString expired).writer = s.writer ∧
      (s.tryLock msg lockString expired).pushers = s.pushers := by
  unfold tryLock
  split
  · exact ⟨rfl, rfl⟩
  · split_ifs <;> exact ⟨rfl, rfl⟩

theorem askClear_hasWriter : s.askClear.async.hasWriter ∧ s.askClear.writer = s.writer ∧
    s.askClear.pushers = s.pushers := by
  unfold askClear
  split_ifs <;> exact ⟨rfl, rfl, rfl⟩

theorem asyncStep_asyncWriter {a : AsyncLoopAction} (h : s.AsyncWriter)
    (hs : s.asyncStep config a = some s') : s'.AsyncWriter := by
  refine ⟨?_, asyncStep_stopped hs⟩
  intro name hname
  cases asyncStep_effect hs with
  | bind srq hasync =>
    rw [h.unbound hasync] at hname
    cases hname
  | readLock msg lockString expired hasync =>
    obtain ⟨hwriter, hpushers⟩ := tryLock_writer (s := s) msg lockString expired
    exact .inr (h.owner_of_free (by rw [hasync]; rfl) hwriter hpushers name hname)
  | read incoming lockString expired hasync =>
    exact .inr (h.owner_of_free (by rw [hasync]; rfl) rfl rfl name hname)
  | retryLock msg lockString snapshot expired hasync =>
    obtain ⟨hwriter, hpushers⟩ := tryLock_writer (s := s) msg lockString expired
    exact .inr (h.owner_of_free (by rw [hasync]; rfl) hwriter hpushers name hname)
  | acquire incoming lockAnswer =>
    rcases handle_writer lockAnswer incoming with ⟨hhas, hwriter⟩ | hnone
    · rw [hwriter] at hname
      exact .inl ⟨(Option.some.inj hname).symm, hhas⟩
    · cases hnone.symm.trans hname
  | retryClear =>
    obtain ⟨hhas, hwriter, hpushers⟩ := askClear_hasWriter (s := s)
    rw [hwriter] at hname
    rw [hpushers]
    exact (h.owner name hname).imp_left fun hown => ⟨hown.1, hhas⟩
  | completed live op =>
    cases op <;> exact (h.owner name hname).imp_left fun hown => ⟨hown.1, rfl⟩
  | written | writtenLast | gone => cases hname

theorem pushStep_syncWriter {a : PushAction} (h : s.SyncWriter)
    (hs : s.pushStep .syncFatalPusher a = some s') : s'.SyncWriter := by
  obtain ⟨hsame, hwriter⟩ := pushStep_effect hs
  refine ⟨by rw [hsame.access, hsame.task]; exact h.parked, ?_⟩
  intro name hname
  rw [hsame.task]
  cases hwriter with
  | same hwriter hnot =>
    rw [hwriter] at hname
    rcases h.owner name hname with hloop | ⟨-, message, hwriting⟩
    · exact .inl hloop
    · exact absurd hwriting (hnot message)
  | took message htook hwriting =>
    exact .inr ⟨(Option.some.inj (htook.symm.trans hname)).symm, message, hwriting⟩
  | gaveUp hnone => cases hnone.symm.trans hname

theorem pushStep_asyncWriter {p : Pusher} {a : PushAction} (h : s.AsyncWriter)
    (hp : p.channel = .async) (hs : s.pushStep p a = some s') : s'.AsyncWriter := by
  obtain ⟨hsame, hwriter⟩ := pushStep_effect hs
  constructor
  · intro name hname
    rw [hsame.async]
    cases hwriter with
    | same hwriter hnot =>
      rw [hwriter] at hname
      rcases h.owner name hname with hloop | ⟨q, message, rfl, hq, hwriting⟩
      · exact .inl hloop
      · have hqp : q ≠ p := by
          rintro rfl
          exact hnot message hwriting
        exact .inr ⟨q, message, rfl, hq, (hsame.pushers q hqp).trans hwriting⟩
    | took message htook hwriting =>
      rw [hp] at htook
      exact .inr ⟨p, message, (Option.some.inj (htook.symm.trans hname)).symm, hp, hwriting⟩
    | gaveUp hnone =>
      rw [hp] at hnone
      cases hnone.symm.trans hname
  · rw [hsame.async]
    intro hstopped q hq
    by_cases hqp : q = p
    · rw [pushStep_ended (h.pushers hstopped p hp)] at hs
      cases hs
    · exact (hsame.pushers q hqp).trans (h.pushers hstopped q hq)

/-- The close takes no writer: it ends a loop or is not seen. -/
theorem closeStep_writers (hsync : s.SyncWriter) (hasync : s.AsyncWriter) {channel : Channel}
    (hs : s.closeStep channel = some s') : s'.SyncWriter ∧ s'.AsyncWriter := by
  unfold closeStep at hs
  split_ifs at hs
  have hclosed : ∀ closed : Channel → Bool, { s with closed }.AsyncWriter :=
    fun _ => ⟨hasync.owner, hasync.pushers⟩
  cases channel with
  | sync =>
    simp only at hs
    split_ifs at hs <;> cases hs
    · exact ⟨.endSync _, (hclosed _).of_asyncSame endSync_asyncSame⟩
    · exact ⟨⟨hsync.parked, hsync.owner⟩, hclosed _⟩
  | async =>
    simp only at hs
    split at hs <;> cases hs
    · exact ⟨⟨hsync.parked, hsync.owner⟩, fun _ hname => (by cases hname), fun _ p hp => if_pos hp⟩
    · exact ⟨⟨hsync.parked, hsync.owner⟩, hclosed _⟩

theorem step_writers (hsync : s.SyncWriter) (hasync : s.AsyncWriter)
    (hs : s.step config a = some s') : s'.SyncWriter ∧ s'.AsyncWriter := by
  cases a with
  | registry op =>
    cases hs
    exact ⟨⟨hsync.parked, hsync.owner⟩, ⟨hasync.owner, hasync.pushers⟩⟩
  | close channel => exact closeStep_writers hsync hasync hs
  | sync a => exact ⟨syncStep_syncWriter hsync hs, hasync.of_asyncSame (syncStep_asyncSame hs)⟩
  | async a => exact ⟨hsync.of_syncSame (asyncStep_syncSame hs), asyncStep_asyncWriter hasync hs⟩
  | push p a =>
    have hsame := (pushStep_effect hs).1
    cases hp : p.channel with
    | async => exact ⟨hsync.of_syncSame (hsame.syncSame hp), pushStep_asyncWriter hasync hp hs⟩
    | sync =>
      obtain rfl : p = .syncFatalPusher := by cases p <;> first | rfl | cases hp
      exact ⟨pushStep_syncWriter hsync hs, hasync.of_asyncSame (hsame.asyncSame hp)⟩

theorem tryLock_unparked (msg : Message) (lockString : String) (expired : Bool) (snapshot : Nat) :
    (s.tryLock msg lockString expired).async ≠ .parked snapshot := by
  unfold tryLock
  split
  · exact nofun
  · split_ifs <;> exact nofun

/-- How the asynchronous loop comes to be parked. -/
theorem asyncStep_parked {a : AsyncLoopAction} {snapshot : Nat}
    (hs : s.asyncStep config a = some s') (h : s'.async = .parked snapshot) :
    (∃ before, s.async = .parked before) ∨
    (a = .acquire ∧ ∃ msg lockAnswer, s.async = .queued (.ok msg) lockAnswer ∧
      msg.messageType = .asyncDeviceClear ∧ s.hasAccess = false) := by
  cases asyncStep_effect hs with
  | bind | read | written | writtenLast | gone => cases h
  | readLock | retryLock => exact absurd h (tryLock_unparked _ _ _ snapshot)
  | acquire incoming lockAnswer hasync =>
    obtain ⟨msg, rfl, htype, haccess⟩ := handle_parked h
    exact .inr ⟨rfl, msg, lockAnswer, hasync, htype, haccess⟩
  | retryClear before hasync => exact .inl ⟨before, hasync⟩
  | completed live op => cases op <;> cases h

/-- A clear that is handled with access is not parked. -/
theorem step_unparked (h : ∀ snapshot, s.async ≠ .parked snapshot) (hg : s.clearsWithAccess a)
    (hs : s.step config a = some s') (snapshot : Nat) : s'.async ≠ .parked snapshot := by
  intro hparked
  cases a with
  | registry op =>
    cases hs
    exact h snapshot hparked
  | close channel =>
    rcases closeStep_async hs with hsame | hended
    · exact h snapshot (hsame.symm.trans hparked)
    · cases hended.symm.trans hparked
  | sync a => exact h snapshot ((syncStep_asyncSame hs).async.symm.trans hparked)
  | push p a => exact h snapshot ((pushStep_effect hs).1.async.symm.trans hparked)
  | async a =>
    rcases asyncStep_parked hs hparked with
      ⟨before, hbefore⟩ | ⟨rfl, msg, lockAnswer, hasync, htype, haccess⟩
    · exact h before hbefore
    · have haccess' := hg msg lockAnswer hasync htype
      rw [haccess] at haccess'
      cases haccess'

/-- Whoever has a writer and does not wait for a lock goes on by itself, whatever the locks. -/
theorem owner_goes_on (hsync : s.SyncWriter) (hasync : s.AsyncWriter)
    (hunparked : ∀ snapshot, s.async ≠ .parked snapshot) {channel : Channel} {name : TaskName}
    (hname : s.writer channel = some name) (locks : LockRegistry) :
    ∃ a : TaskAction, a.name = some name ∧ ({ s with locks }.step config a).isSome := by
  cases channel with
  | sync =>
    rcases hsync.owner name hname with ⟨rfl, hhas⟩ | ⟨rfl, message, hwriting⟩
    · cases htask : s.channel.task with
      | sending requestId rest serviceRequest =>
        cases rest with
        | nil =>
          exact ⟨.sync (.own .replied), rfl, by
            simp [step, syncStep, hname, SyncChannel.step, htask]⟩
        | cons piece rest =>
          exact ⟨.sync (.own .sendNext), rfl, by simp [step, syncStep, SyncChannel.step, htask]⟩
      | writing message ends =>
        exact ⟨.sync (.own .written), rfl, by
          simp [step, syncStep, hname, SyncChannel.step, htask]⟩
      | _ =>
        rw [htask] at hhas
        cases hhas
    · exact ⟨.push .syncFatalPusher (.written true), rfl, by simp [step, pushStep, hwriting]⟩
  | async =>
    rcases hasync.owner name hname with ⟨rfl, hhas⟩ | ⟨p, message, rfl, -, hwriting⟩
    · cases htask : s.async with
      | parked snapshot => exact absurd htask (hunparked snapshot)
      | onBus op => exact ⟨.async (.completed (.ok 0)), rfl, by simp [step, asyncStep]⟩
      | writing message ends => exact ⟨.async (.written false), rfl, by simp [step, asyncStep]⟩
      | _ =>
        rw [htask] at hhas
        cases hhas
    · exact ⟨.push p (.written true), rfl, by simp [step, pushStep, hwriting]⟩

/-- What every state of a run has in which clears are handled with access. -/
structure Unblocked (s : SessionTasks) : Prop where
  sync : s.SyncWriter
  async : s.AsyncWriter
  unparked : ∀ snapshot, s.async ≠ .parked snapshot

theorem unblocked {id : UInt16} {resource : String} {locks : LockRegistry}
    (h : Reach (step config) clearsWithAccess (start config id resource locks) s) :
    s.Unblocked := by
  refine h.invariant (P := Unblocked) ⟨⟨?_, ?_⟩, ⟨?_, ?_⟩, ?_⟩ ?_
  · exact fun _ hparked => by cases hparked
  · exact fun _ hname => by cases hname
  · exact fun _ hname => by cases hname
  · exact (seen_start config id resource locks).pushers
  · exact fun _ hparked => by cases hparked
  · intro s a s' hs hg hstep
    obtain ⟨hsync, hasync⟩ := step_writers hs.sync hs.async hstep
    exact ⟨hsync, hasync, step_unparked hs.unparked hg hstep⟩

/-- A task that waits for a lock has no writer. -/
theorem Unblocked.no_writer (h : s.Unblocked) {name : TaskName} (hwaits : s.waitsForLock name)
    (channel : Channel) : s.writer channel ≠ some name := by
  intro hname
  cases channel with
  | sync =>
    rcases h.sync.owner name hname with ⟨rfl, hhas⟩ | ⟨rfl, -⟩
    · obtain ⟨snapshot, hparked⟩ := hwaits
      exact h.sync.not_parked (SyncTask.op_of_hasWriter hhas) snapshot hparked
    · exact hwaits
  | async =>
    rcases h.async.owner name hname with ⟨rfl, hhas⟩ | ⟨p, message, rfl, -⟩
    · rcases hwaits with ⟨msg, lockString, snapshot, hrequesting⟩ | ⟨snapshot, hparked⟩
      · rw [hrequesting] at hhas
        cases hhas
      · exact h.unparked snapshot hparked
    · exact hwaits

end

/-- Where device clears are handled with access: no task that waits for another holder's lock has a
writer, and a message that a pusher has to write goes out as soon as a task that needs no lock has
given the writer up. -/
theorem waiting_tasks_have_no_writer (config : SessionConfig) (id : UInt16) (resource : String)
    (locks : LockRegistry) (s : SessionTasks)
    (h : Reach (step config) clearsWithAccess (start config id resource locks) s) :
    (∀ name, s.waitsForLock name → ∀ channel, s.writer channel ≠ some name) ∧
    ∀ p message, s.pushers p = .queued message →
      (s.step config (.push p .acquire)).isSome ∨
      ∃ name, s.writer p.channel = some name ∧ ¬ s.waitsForLock name ∧ ∀ locks,
        ∃ a : TaskAction, a.name = some name ∧ ({ s with locks }.step config a).isSome := by
  have hfree := unblocked h
  refine ⟨fun name hwaits => hfree.no_writer hwaits, ?_⟩
  intro p message hqueued
  cases hname : s.writer p.channel with
  | none => exact .inl (by simp [step, pushStep, hqueued, hname])
  | some name =>
    refine .inr ⟨name, rfl, fun hwaits => hfree.no_writer hwaits p.channel hname, ?_⟩
    exact owner_goes_on hfree.sync hfree.async hfree.unparked hname

def clearRequest : Message := ⟨.asyncDeviceClear, 0, 0, []⟩

/-- The asynchronous loop clears the instrument, with access, while a service request waits. -/
theorem waiting_tasks_have_no_writer_clearing :
    ∃ s, Reach (step plainSession) clearsWithAccess (start plainSession 0 "gpib5" {}) s ∧
      s.pushers .srqForwarder = .queued ⟨.asyncServiceRequest, 0x40, 0, []⟩ ∧
      (∀ name, s.waitsForLock name → ∀ channel, s.writer channel ≠ some name) := by
  have hrun : Reach (step plainSession) clearsWithAccess (start plainSession 0 "gpib5" {}) _ :=
    ((((Reach.refl.tail (a := .async (.bind true)) trivial rfl).tail
      (a := .async (.read (.ok clearRequest) "" false)) trivial rfl).tail
      (a := .async .acquire) (fun _ _ _ _ => rfl) rfl).tail
      (a := .push .srqForwarder .notified) trivial rfl).tail
      (a := .push .srqForwarder (.polled (some 0x40))) trivial rfl
  exact ⟨_, hrun, rfl, (waiting_tasks_have_no_writer plainSession 0 "gpib5" {} _ hrun).1⟩

/-- The asynchronous loop waits for a lock, and none has been released since. -/
def asyncParked (s : SessionTasks) : Bool := match s.async with
  | .parked snapshot => snapshot == s.locks.released
  | _ => false

/-- Link 1 has the lock, and a device clear of the session waits for it with the asynchronous
channel's writer. A service request the forwarder has polled cannot be sent, and the writer's owner
does nothing until the lock is released. -/
theorem clear_waits_with_writer :
    ∃ s, Reach (step plainSession) anyStep (start plainSession 0 "gpib5" lockedByLink) s ∧
      s.waitsForLock .asyncLoop ∧ s.writer .async = some .asyncLoop ∧
      s.pushers .srqForwarder = .queued ⟨.asyncServiceRequest, 0x40, 0, []⟩ ∧
      s.step plainSession (.push .srqForwarder .acquire) = none ∧
      ∀ a, s.step plainSession (.async a) = none := by
  obtain ⟨s, hreach, htest⟩ := exists_reach_of_exec (step plainSession)
    (start plainSession 0 "gpib5" lockedByLink)
    (fun s => s.asyncParked && s.writer .async == some .asyncLoop &&
      s.pushers .srqForwarder == .queued ⟨.asyncServiceRequest, 0x40, 0, []⟩)
    [.async (.bind true), .async (.read (.ok clearRequest) "" false), .async .acquire,
      .push .srqForwarder .notified, .push .srqForwarder (.polled (some 0x40))] (by decide +kernel)
  simp only [Bool.and_eq_true, beq_iff_eq] at htest
  obtain ⟨⟨hparked, hwriter⟩, hqueued⟩ := htest
  unfold asyncParked at hparked
  split at hparked
  · rename_i snapshot hasync
    have hsame : snapshot = s.locks.released := beq_iff_eq.mp hparked
    refine ⟨s, hreach, .inr ⟨snapshot, hasync⟩, hwriter, hqueued, ?_, ?_⟩
    · simp [step, pushStep, hqueued, Pusher.channel, hwriter]
    · intro a
      cases a <;> simp [step, asyncStep, hasync, hsame]
  · cases hparked

end SessionTasks
end Ugpibd.Hislip
