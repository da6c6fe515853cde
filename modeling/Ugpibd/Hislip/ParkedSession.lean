import Ugpibd.Hislip.SessionTasks

/-! What becomes of a session when its client goes away. A loop that is reading sees the close; one
that waits for somebody else's lock does not look. -/
namespace Ugpibd.Hislip
open Frontend Library

/-- The asynchronous loop has returned or there is none. -/
def AsyncTask.stopped : AsyncTask → Bool
  | .unbound | .ended => true
  | _ => false

namespace SessionTasks

/-- The channel's loop is at its read, or not there. -/
def atRead (s : SessionTasks) : Channel → Prop
  | .sync => s.channel.task = .reading ∨ s.channel.task = .ended
  | .async => s.async = .reading ∨ s.async.stopped

/-- Runs in which the client's close comes when the loop of its channel is at the read. -/
def closesAtRead (s : SessionTasks) : TaskAction → Prop
  | .close channel => s.atRead channel
  | _ => True

/-- The steps made while somebody else's lock keeps the session out. -/
def lockedOut (s : SessionTasks) (_ : TaskAction) : Prop := s.hasAccess = false

/-- The asynchronous half is over, and stays so: its loop has returned or will not be started. -/
structure AsyncOver (s : SessionTasks) : Prop where
  stopped : s.async.stopped
  closed : s.closed .async
  pushers : ∀ p, p.channel = .async → s.pushers p = .ended

/-- The session is over. -/
structure Over (s : SessionTasks) : Prop where
  sync : s.channel.task = .ended
  async : s.AsyncOver

/-- The synchronous loop waits for the lock with a command or a trigger. -/
structure Parked (s : SessionTasks) : Prop where
  op : s.channel.task.op.isSome
  waits : ∃ snapshot, s.access = .parked snapshot

section
variable {config : SessionConfig} {s s' : SessionTasks} {a : TaskAction}

theorem AsyncOver.of_asyncSame (h : s.AsyncOver) (hsame : AsyncSame s s') : s'.AsyncOver where
  stopped := hsame.async ▸ h.stopped
  closed := hsame.closed ▸ h.closed
  pushers := fun p hp => (hsame.pushers p hp).trans (h.pushers p hp)

/-- A pusher that has ended makes no step. -/
theorem pushStep_ended {p : Pusher} {a : PushAction} (h : s.pushers p = .ended) :
    s.pushStep p a = none := by
  cases a <;> cases p <;> simp [pushStep, h]

theorem asyncStep_over {a : AsyncLoopAction} (h : s.AsyncOver) : s.asyncStep config a = none := by
  have hclosed := h.closed
  have hstopped := h.stopped
  cases hasync : s.async with
  | unbound | ended => cases a <;> simp [asyncStep, hasync, hclosed]
  | _ => simp [AsyncTask.stopped, hasync] at hstopped

theorem syncStep_ended {a : SyncLoopAction} (h : s.channel.task = .ended)
    (hs : s.syncStep config a = some s') : s' = s := by
  cases a with
  | own a => cases a <;> simp [syncStep, SyncChannel.step, h] at hs
  | retry =>
    simp only [syncStep, askAccess, h, SyncTask.op] at hs
    split at hs
    · split_ifs at hs
      exact (Option.some.inj hs).symm
    · cases hs
  | acquire => simp [syncStep, h] at hs
  | gone => simp [syncStep, h] at hs

/-- A parked loop that is woken too early is parked again. -/
theorem syncStep_parked {a : SyncLoopAction} (h : s.Parked) (hout : s.hasAccess = false)
    (hs : s.syncStep config a = some s') :
    s' = { s with access := .parked s.locks.released } := by
  obtain ⟨hop, snapshot, hparked⟩ := h
  obtain ⟨op, hop⟩ := Option.isSome_iff_exists.mp hop
  cases a with
  | retry =>
    have hask : s.askAccess = { s with access := .parked s.locks.released } := by
      simp [askAccess, hop, hout]
    simp only [syncStep, hparked] at hs
    split_ifs at hs
    exact (Option.some.inj hs).symm.trans hask
  | own a =>
    cases htask : s.channel.task with
    | executing | triggering => cases a <;> simp [syncStep, SyncChannel.step, htask, hparked] at hs
    | _ => simp [SyncTask.op, htask] at hop
  | acquire | gone =>
    cases htask : s.channel.task with
    | executing | triggering => simp [syncStep, htask] at hs
    | _ => simp [SyncTask.op, htask] at hop

/-- A loop that is not reading does not see the close. -/
theorem closeStep_unseen {channel : Channel} (hsync : s.channel.task ≠ .reading)
    (hasync : s.async.stopped) (hs : s.closeStep channel = some s') :
    s' = { s with closed := Function.update s.closed channel true } := by
  unfold closeStep at hs
  split_ifs at hs
  cases channel with
  | sync => exact (Option.some.inj ((if_neg hsync).symm.trans hs)).symm
  | async =>
    simp only at hs
    split at hs
    · rename_i hreading
      simp [AsyncTask.stopped, hreading] at hasync
    · exact (Option.some.inj hs).symm

/-- With the asynchronous half over, and the synchronous loop ended or parked, nothing is begun and
each half stays where it is. -/
structure Still (s s' : SessionTasks) : Prop where
  begun : s'.begun = s.begun
  async : s'.AsyncOver
  task : s'.channel.task = s.channel.task
  parked : s.Parked → s'.Parked

theorem step_still (hover : s.AsyncOver)
    (hsync : s.channel.task = .ended ∨ s.Parked ∧ s.hasAccess = false)
    (hs : s.step config a = some s') : Still s s' := by
  cases a with
  | registry op =>
    cases hs
    exact ⟨rfl, ⟨hover.stopped, hover.closed, hover.pushers⟩, rfl, fun h => ⟨h.op, h.waits⟩⟩
  | close channel =>
    have hnotReading : s.channel.task ≠ .reading := by
      intro hreading
      rcases hsync with hended | ⟨hparked, -⟩
      · cases hended.symm.trans hreading
      · simpa [hreading, SyncTask.op] using hparked.op
    obtain rfl := closeStep_unseen hnotReading hover.stopped hs
    refine ⟨rfl, ⟨hover.stopped, ?_, hover.pushers⟩, rfl, fun h => ⟨h.op, h.waits⟩⟩
    simp only [Function.update_apply]
    split_ifs
    · rfl
    · exact hover.closed
  | sync a =>
    rcases hsync with hended | ⟨hparked, hout⟩
    · obtain rfl := syncStep_ended hended hs
      exact ⟨rfl, hover, rfl, fun h => h⟩
    · obtain rfl := syncStep_parked hparked hout hs
      exact ⟨rfl, ⟨hover.stopped, hover.closed, hover.pushers⟩, rfl, fun h => ⟨h.op, _, rfl⟩⟩
  | async a =>
    rw [step, asyncStep_over hover] at hs
    cases hs
  | push p a =>
    cases hp : p.channel with
    | async =>
      rw [step, pushStep_ended (hover.pushers p hp)] at hs
      cases hs
    | sync =>
      obtain ⟨hsame, -⟩ := pushStep_effect hs
      exact {
        begun := hsame.begun (by rintro rfl; cases hp)
        async := hover.of_asyncSame (hsame.asyncSame hp)
        task := hsame.task
        parked := fun h => ⟨hsame.task ▸ h.op, hsame.access ▸ h.waits⟩ }

/-- A session that is over stays over and begins nothing. -/
theorem over_run (hover : s.Over) (h : Reach (step config) anyStep s s') :
    s'.begun = s.begun ∧ s'.Over := by
  refine h.invariant (P := fun t => t.begun = s.begun ∧ t.Over) ⟨rfl, hover⟩ ?_
  rintro t a t' ⟨hbegun, ht⟩ - hs
  have hstill := step_still ht.async (.inl ht.sync) hs
  exact ⟨hstill.begun.trans hbegun, hstill.task.trans ht.sync, hstill.async⟩

/-- While the session is locked out its parked operation does not begin. -/
theorem parked_run (hparked : s.Parked) (hover : s.AsyncOver)
    (h : Reach (step config) lockedOut s s') : s'.begun = s.begun ∧ s'.Parked := by
  suffices hall : s'.begun = s.begun ∧ s'.Parked ∧ s'.AsyncOver from ⟨hall.1, hall.2.1⟩
  refine h.invariant (P := fun t => t.begun = s.begun ∧ t.Parked ∧ t.AsyncOver)
    ⟨rfl, hparked, hover⟩ ?_
  rintro t a t' ⟨hbegun, ht, hasync⟩ hout hs
  have hstill := step_still hasync (.inr ⟨ht, hout⟩) hs
  exact ⟨hstill.begun.trans hbegun, hstill.parked ht, hstill.async⟩

/-- A loop whose close came at the read has seen it. -/
structure Seen (s : SessionTasks) : Prop where
  sync : s.closed .sync → s.channel.task = .ended
  async : s.closed .async → s.async.stopped
  pushers : s.async.stopped → ∀ p, p.channel = .async → s.pushers p = .ended

theorem seen_start (config : SessionConfig) (id : UInt16) (resource : String)
    (locks : LockRegistry) : (start config id resource locks).Seen where
  sync := by simp [start]
  async := by simp [start]
  pushers := by
    intro _ p hp
    cases p <;> first | rfl | cases hp

@[simp] theorem answer_running (message : Message) (ends : Bool) :
    (s.answer message ends).async.stopped = false := rfl

@[simp] theorem beginAsync_running (op : AsyncOp) : (s.beginAsync op).async.stopped = false := rfl

@[simp] theorem askClear_running : s.askClear.async.stopped = false := by
  unfold askClear
  split_ifs <;> rfl

@[simp] theorem tryLock_running (msg : Message) (lockString : String) (expired : Bool) :
    (s.tryLock msg lockString expired).async.stopped = false := by
  unfold tryLock
  split
  · rfl
  · split_ifs <;> rfl

/-- Only a fatal error of the client's stops the loop here. -/
theorem handle_stopped {lockAnswer : Option LockResponse} {incoming : Except Error Message}
    (h : (s.handle config lockAnswer incoming).async.stopped) :
    s.handle config lockAnswer incoming = s.endAsync := by
  unfold handle at h ⊢
  split at h
  · simp at h
  · split at h
    case h_7 => rfl
    case h_8 => simp [giveUp, AsyncTask.stopped] at h
    case h_1 => split at h <;> simp at h
    all_goals first
      | split_ifs at h <;> simp at h
      | simp at h

/-- The asynchronous loop takes its pushers along when it returns. -/
theorem asyncStep_stopped {a : AsyncLoopAction} (hs : s.asyncStep config a = some s')
    (h : s'.async.stopped) (p : Pusher) (hp : p.channel = .async) : s'.pushers p = .ended := by
  cases asyncStep_effect hs with
  | bind | read | written => cases h
  | readLock | retryLock => simp at h
  | acquire =>
    rw [handle_stopped h]
    exact if_pos hp
  | retryClear => simp at h
  | completed live op => cases op <;> cases h
  | writtenLast | gone => exact if_pos hp

/-- A loop at the read returns when the close comes, and one that has returned stays so. -/
theorem closeStep_seen (h : s.Seen) {channel : Channel} (hread : s.atRead channel)
    (hs : s.closeStep channel = some s') : s'.Seen := by
  unfold closeStep at hs
  split_ifs at hs with hopen
  cases channel with
  | sync =>
    rcases hread with hreading | hended
    · obtain rfl := Option.some.inj ((if_pos hreading).symm.trans hs)
      exact ⟨fun _ => rfl, h.async, fun hstopped p hp =>
        (endSync_asyncSame.pushers p hp).trans (h.pushers hstopped p hp)⟩
    · obtain rfl := Option.some.inj ((if_neg (by simp [hended])).symm.trans hs)
      exact ⟨fun _ => hended, h.async, h.pushers⟩
  | async =>
    simp only at hs
    split at hs <;> obtain rfl := Option.some.inj hs
    · exact ⟨h.sync, fun _ => rfl, fun _ p hp => if_pos hp⟩
    · rename_i hnotReading
      have hstopped : s.async.stopped := hread.resolve_left hnotReading
      exact ⟨h.sync, fun _ => hstopped, h.pushers⟩

theorem step_seen (h : s.Seen) (hg : s.closesAtRead a) (hs : s.step config a = some s') :
    s'.Seen := by
  cases a with
  | registry op =>
    cases hs
    exact ⟨h.sync, h.async, h.pushers⟩
  | close channel => exact closeStep_seen h hg hs
  | sync a =>
    have hsame := syncStep_asyncSame hs
    refine ⟨?_, by rw [hsame.closed, hsame.async]; exact h.async, ?_⟩
    · rw [hsame.closed]
      intro hclosed
      rw [syncStep_ended (h.sync hclosed) hs]
      exact h.sync hclosed
    · intro hstopped p hp
      rw [hsame.async] at hstopped
      exact (hsame.pushers p hp).trans (h.pushers hstopped p hp)
  | async a =>
    have hsame := asyncStep_syncSame hs
    refine ⟨by rw [hsame.closed, hsame.task]; exact h.sync, ?_, asyncStep_stopped hs⟩
    rw [hsame.closed]
    intro hclosed
    have hover : s.AsyncOver := ⟨h.async hclosed, hclosed, h.pushers (h.async hclosed)⟩
    rw [step, asyncStep_over hover] at hs
    cases hs
  | push p a =>
    obtain ⟨hsame, -⟩ := pushStep_effect hs
    refine ⟨by rw [hsame.closed, hsame.task]; exact h.sync,
      by rw [hsame.closed, hsame.async]; exact h.async, ?_⟩
    intro hstopped q hq
    rw [hsame.async] at hstopped
    by_cases hqp : q = p
    · subst hqp
      rw [step, pushStep_ended (h.pushers hstopped q hq)] at hs
      cases hs
    · exact (hsame.pushers q hqp).trans (h.pushers hstopped q hq)

theorem over_of_closed {id : UInt16} {resource : String} {locks : LockRegistry}
    (h : Reach (step config) closesAtRead (start config id resource locks) s)
    (hsync : s.closed .sync) (hasync : s.closed .async) : s.Over := by
  have hseen : s.Seen := h.invariant (seen_start config id resource locks)
    fun _ _ _ ht hg hs => step_seen ht hg hs
  exact ⟨hseen.sync hsync, hseen.async hasync, hasync, hseen.pushers (hseen.async hasync)⟩

end

/-- Where each close comes when its channel's loop is at the read, both closes end the session then
and there, and nothing is begun for it afterwards. Where the synchronous loop is parked, nothing is
begun as long as the lock is not released. -/
theorem nothing_begun_after_close (config : SessionConfig) (id : UInt16) (resource : String)
    (locks : LockRegistry) :
    (∀ s, Reach (step config) closesAtRead (start config id resource locks) s →
      s.closed .sync → s.closed .async →
      s.Over ∧ ∀ s', Reach (step config) anyStep s s' → s'.begun = s.begun ∧ s'.Over) ∧
    (∀ s, Reach (step config) anyStep (start config id resource locks) s → s.Parked →
      s.AsyncOver → ∀ s', Reach (step config) lockedOut s s' →
        s'.begun = s.begun ∧ s'.Parked) := by
  refine ⟨?_, fun s _ hparked hover s' h => parked_run hparked hover h⟩
  intro s h hsync hasync
  have hover := over_of_closed h hsync hasync
  exact ⟨hover, fun s' h' => over_run hover h'⟩

/-- A registry in which link 1 has locked the instrument at address 5. -/
def lockedByLink : LockRegistry :=
  (LockRegistry.apply {} (.request "gpib5" (vxi11Id 1) "")).2

/-- A session without TLS that asks for the instrument, and its command. -/
def plainSession : SessionConfig where
  protocol := 0x0100
  maxMessageSize := 1024

def resetCommand : Message := ⟨.dataEnd, 0, 0xffffff00, [0x2a, 0x52, 0x53, 0x54]⟩

def isParked (s : SessionTasks) : Bool :=
  s.channel.task.op.isSome && match s.access with
    | .parked _ => true
    | _ => false

theorem parked_of_isParked {s : SessionTasks} (h : s.isParked = true) : s.Parked := by
  obtain ⟨hop, hwaits⟩ := Bool.and_eq_true_iff.mp h
  refine ⟨hop, ?_⟩
  split at hwaits
  · exact ⟨_, ‹_›⟩
  · cases hwaits

/-- A command that was parked, went out when the lock was released, and was over when the closes
came; and one that is parked while the lock is on. -/
theorem nothing_begun_after_close_reset :
    (∃ s, Reach (step plainSession) closesAtRead (start plainSession 0 "gpib5" lockedByLink) s ∧
      s.begun = [.execute resetCommand.payload false] ∧ s.closed .sync ∧ s.closed .async ∧ s.Over ∧
      ∀ s', Reach (step plainSession) anyStep s s' → s'.begun = s.begun ∧ s'.Over) ∧
    ∃ s, Reach (step plainSession) anyStep (start plainSession 0 "gpib5" lockedByLink) s ∧
      s.Parked ∧ s.hasAccess = false ∧ s.AsyncOver ∧
      ∀ s', Reach (step plainSession) lockedOut s s' → s'.begun = s.begun ∧ s'.Parked := by
  obtain ⟨hread, hparked⟩ := nothing_begun_after_close plainSession 0 "gpib5" lockedByLink
  constructor
  · have hrun : Reach (step plainSession) closesAtRead (start plainSession 0 "gpib5" lockedByLink) _ :=
      (((((Reach.refl.tail (a := .sync (.own (.receive resetCommand))) trivial rfl).tail
        (a := .registry (.release "gpib5" (vxi11Id 1))) trivial rfl).tail
        (a := .sync .retry) trivial rfl).tail
        (a := .sync (.own (.executed {}))) trivial rfl).tail
        (a := .close .sync) (.inl rfl) rfl).tail
        (a := .close .async) (.inr rfl) rfl
    obtain ⟨hover, hafter⟩ := hread _ hrun rfl rfl
    exact ⟨_, hrun, rfl, rfl, rfl, hover, hafter⟩
  · obtain ⟨s, hreach, htest⟩ := exists_reach_of_exec (step plainSession)
      (start plainSession 0 "gpib5" lockedByLink)
      (fun s => s.isParked && !s.hasAccess && s.async.stopped && s.closed .async &&
        s.pushers .srqForwarder == .ended && s.pushers .asyncPusher == .ended)
      [.sync (.own (.receive resetCommand)), .close .async, .close .sync] (by decide +kernel)
    simp only [Bool.and_eq_true, Bool.not_eq_true', beq_iff_eq] at htest
    obtain ⟨⟨⟨⟨⟨hwaits, hout⟩, hstopped⟩, hclosed⟩, hforwarder⟩, hpusher⟩ := htest
    have hover : s.AsyncOver := by
      refine ⟨hstopped, hclosed, ?_⟩
      intro p hp
      cases p with
      | syncFatalPusher => cases hp
      | srqForwarder => exact hforwarder
      | asyncPusher => exact hpusher
    have hp := parked_of_isParked hwaits
    exact ⟨s, hreach, hp, hout, hover, hparked s hreach hp hover⟩

/-- The client closes both connections while its command is parked behind link 1's lock. Nothing has
ended the session, and when the lock is released the command goes out. -/
theorem parked_command_outlives_client :
    ∃ s s', Reach (step plainSession) anyStep (start plainSession 0 "gpib5" lockedByLink) s ∧
      s.closed .sync ∧ s.closed .async ∧ s.isParked ∧ ¬ s.Over ∧ s.begun = [] ∧
      Reach (step plainSession) anyStep s s' ∧
      s'.begun = [.execute resetCommand.payload false] := by
  obtain ⟨s, hreach, htest⟩ := exists_reach_of_exec (step plainSession)
    (start plainSession 0 "gpib5" lockedByLink)
    (fun s => s.closed .sync && s.closed .async && s.isParked && s.begun == [] &&
      (exec (step plainSession) s [.registry (.release "gpib5" (vxi11Id 1)), .sync .retry]).any
        (·.begun == [.execute resetCommand.payload false]))
    [.async (.bind true), .sync (.own (.receive resetCommand)), .close .sync, .close .async]
    (by decide +kernel)
  simp only [Bool.and_eq_true, beq_iff_eq] at htest
  obtain ⟨⟨⟨⟨hsync, hasync⟩, hparked⟩, hbegun⟩, hlater⟩ := htest
  obtain ⟨s', hreach', hbegun'⟩ := exists_reach_of_exec _ s _ _ hlater
  refine ⟨s, s', hreach, hsync, hasync, hparked, ?_, hbegun, hreach', beq_iff_eq.mp hbegun'⟩
  intro hover
  have hop := (parked_of_isParked hparked).op
  rw [hover.sync] at hop
  cases hop

end SessionTasks
end Ugpibd.Hislip
