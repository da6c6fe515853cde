import Ugpibd.Hislip.ParkedSession

/-! Fatal errors are reported on both channels. The loop that detects one writes it on its own channel
and hands it over, through a queue of bounded depth, to the task that writes on the other. -/
namespace Ugpibd.Hislip
open Frontend Library

/-- What the synchronous loop hands over to be written on the asynchronous channel. -/
inductive AsyncPush
  | serviceRequest (stb : UInt8)
  | fatal (code : FatalErrorCode) (message : String)
  deriving DecidableEq, Repr

def AsyncPush.message : AsyncPush → Message
  | .serviceRequest stb => ⟨.asyncServiceRequest, stb, 0, []⟩
  | .fatal code message => .ofError (.fatal code message)

def srqQueueDepth : Nat := 4

/-- One fatal error ends the session, so there is never a second to queue. -/
def syncQueueDepth : Nat := 1

def Channel.other : Channel → Channel
  | .sync => .async
  | .async => .sync

/-- The code of the fatal error a message reports. -/
def Message.fatalCode (message : Message) : Option UInt8 :=
  if message.messageType = .fatalError then some message.controlCode else none

def SyncTask.fatal : SyncTask → Option UInt8
  | .writing message _ => message.fatalCode
  | _ => none

def AsyncTask.fatal : AsyncTask → Option UInt8
  | .writing message _ => message.fatalCode
  | _ => none

/-- After these the asynchronous loop reads no more. -/
def AsyncTask.closing : AsyncTask → Bool
  | .writing _ ends => ends
  | .ended => true
  | _ => false

/-- What the synchronous loop mirrors: the fatal errors of its reads, and its refusal of TLS. -/
def SyncAction.mirrored (config : SessionConfig) : SyncAction → Option (FatalErrorCode × String)
  | .readError (.fatal code message) => some (code, message)
  | .receive msg => match msg.messageType with
    | .startTLS | .endTLS | .getSaslMechanismList | .authenticationStart
    | .authenticationExchange =>
      if config.protocol < protocol20 then none
      else some (.secureConnectionFailed, "TLS/SASL not supported")
    | _ => none
  | _ => none

/-- What the asynchronous loop mirrors: the fatal errors of its reads. -/
def mirroredToSync : Except Error Message → Option (FatalErrorCode × String)
  | .error (.fatal code message) => some (code, message)
  | _ => none

/-- The service request a step of the synchronous loop raises. -/
def SyncAction.raises (channel : SyncChannel) : SyncAction → Option UInt8
  | .executed bus => match channel.task with
    | .executing _ cmd => match execute (queryHint cmd) bus with
      | .ok ⟨none, serviceRequest⟩ => serviceRequest
      | _ => none
    | _ => none
  | .replied => match channel.task with
    | .sending _ [] serviceRequest => serviceRequest
    | _ => none
  | _ => none

/-- A session's tasks with the queues between them. The fatal errors its loops have sent, and those
handed over for a channel, are not part of the program. -/
structure Mirroring where
  tasks : SessionTasks
  asyncQueue : List AsyncPush := []
  syncQueue : List (FatalErrorCode × String) := []
  sent : List (Channel × UInt8) := []
  handed : List (Channel × UInt8) := []

namespace Mirroring

/-- The receiving end of the asynchronous channel's queue: in the entry until that channel is bound,
then with its pusher. -/
def asyncReceiver (s : Mirroring) : Bool :=
  match s.tasks.async with
  | .unbound => true
  | _ => s.tasks.pushers .asyncPusher != .ended

def syncReceiver (s : Mirroring) : Bool := s.tasks.pushers .syncFatalPusher != .ended

def raiseServiceRequest (s : Mirroring) : Option UInt8 → Mirroring
  | some stb =>
    if s.asyncQueue.length < srqQueueDepth ∧ s.asyncReceiver then
      { s with asyncQueue := s.asyncQueue ++ [.serviceRequest stb] }
    else s
  | none => s

def mirrorFatal (s : Mirroring) : Option (FatalErrorCode × String) → Mirroring
  | some (code, message) =>
    if s.asyncQueue.length < srqQueueDepth ∧ s.asyncReceiver then
      { s with
        asyncQueue := s.asyncQueue ++ [.fatal code message]
        handed := (.async, code.errorCode) :: s.handed }
    else s
  | none => s

def mirrorFatalToSync (s : Mirroring) : Option (FatalErrorCode × String) → Mirroring
  | some (code, message) =>
    if s.syncQueue.length < syncQueueDepth ∧ s.syncReceiver then
      { s with
        syncQueue := s.syncQueue ++ [(code, message)]
        handed := (.sync, code.errorCode) :: s.handed }
    else s
  | none => s

def noteSent (s : Mirroring) (channel : Channel) (code : Option UInt8) : Mirroring :=
  { s with sent := code.toList.map (channel, ·) ++ s.sent }

def start (config : SessionConfig) (id : UInt16) (resource : String) (locks : LockRegistry) :
    Mirroring where
  tasks := .start config id resource locks

/-- A step of the synchronous loop: what it hands over, and the fatal error that a read of it makes
it send. -/
def syncOwn (config : SessionConfig) (s : Mirroring) (a : SyncAction) (tasks : SessionTasks) :
    Mirroring :=
  let mirrored := (s.raiseServiceRequest (a.raises s.tasks.channel)).mirrorFatal (a.mirrored config)
  { mirrored with tasks }.noteSent .sync (match s.tasks.channel.task with
    | .reading => tasks.channel.task.fatal
    | _ => none)

/-- The asynchronous loop handles a message. -/
def asyncHandled (s : Mirroring) (incoming : Except Error Message) (tasks : SessionTasks) :
    Mirroring :=
  { s.mirrorFatalToSync (mirroredToSync incoming) with tasks }.noteSent .async tasks.async.fatal

def step (config : SessionConfig) (s : Mirroring) (a : TaskAction) : Option Mirroring :=
  match a with
  | .sync (.own b) => (s.tasks.step config a).map (s.syncOwn config b)
  | .async .acquire => match s.tasks.async with
    | .queued incoming _ => (s.tasks.step config a).map (s.asyncHandled incoming)
    | _ => none
  | .push .asyncPusher (.push message) => match s.asyncQueue with
    | push :: rest =>
      if message = push.message then
        (s.tasks.step config a).map fun tasks => { s with tasks, asyncQueue := rest }
      else none
    | [] => none
  | .push .syncFatalPusher (.push message) => match s.syncQueue with
    | (code, text) :: rest =>
      if message = .ofError (.fatal code text) then
        (s.tasks.step config a).map fun tasks => { s with tasks, syncQueue := rest }
      else none
    | [] => none
  | a => (s.tasks.step config a).map fun tasks => { s with tasks }

/-- Both channels are bound: their loops and their pushers run. -/
structure Bound (s : Mirroring) : Prop where
  sync : s.tasks.channel.task ≠ .ended
  fatalPusher : s.tasks.pushers .syncFatalPusher ≠ .ended
  async : s.tasks.async.stopped = false
  asyncPusher : s.tasks.pushers .asyncPusher ≠ .ended

/-- Runs in which fatal errors come when both channels are bound, those of the synchronous channel
find room in the queue, and those of the asynchronous one are of its reads. -/
def mirrorsAll (config : SessionConfig) (s : Mirroring) : TaskAction → Prop
  | .sync (.own a) => a.mirrored config ≠ none → s.Bound ∧ s.asyncQueue.length < srqQueueDepth
  | .async .acquire => ∀ incoming lockAnswer, s.tasks.async = .queued incoming lockAnswer →
      (mirroredToSync incoming ≠ none → s.Bound) ∧
      ∀ msg, incoming = .ok msg → msg.messageType = .fatalError ∨
        Channel.async.continues config.protocol msg
  | _ => True

end Mirroring

section
variable {config : SessionConfig}

/-- The synchronous loop sends no fatal error that it does not mirror. -/
theorem mirrored_of_receive {channel : SyncChannel} (htask : channel.task = .reading)
    {msg : Message} {code : UInt8}
    (h : (channel.receive config msg).task.fatal = some code) :
    ∃ c message, (SyncAction.receive msg).mirrored config = some (c, message) ∧
      c.errorCode = code := by
  unfold SyncChannel.receive at h
  split at h
  · simp [SyncChannel.note, htask, SyncTask.fatal] at h
  · cases h
  · cases h
  · cases h
  · cases h
  · simp [htask, SyncTask.fatal] at h
  · rename_i _ _ _ _ hfatal _
    split_ifs at h with hcontinues
    · cases h
    · obtain rfl := Option.some.inj h
      refine ⟨.secureConnectionFailed, "TLS/SASL not supported", ?_, rfl⟩
      unfold Channel.continues at hcontinues
      unfold SyncAction.mirrored
      cases htype : msg.messageType <;> simp [htype] at hcontinues hfatal ⊢ <;> simpa using hcontinues

namespace SessionTasks
variable {s s' : SessionTasks}

theorem putChannel_task (channel : SyncChannel) :
    (s.putChannel channel).channel.task = channel.task := by
  unfold putChannel
  split_ifs with hended
  · exact hended.symm
  · rfl

theorem askAccess_task : s.askAccess.channel.task = s.channel.task := by
  unfold askAccess
  split
  · split_ifs <;> rfl
  · rfl

/-- The fatal errors the synchronous loop sends are those it mirrors. -/
theorem syncStep_fatal {a : SyncAction} {code : UInt8} (htask : s.channel.task = .reading)
    (hs : s.syncStep config (.own a) = some s') (h : s'.channel.task.fatal = some code) :
    ∃ c message, a.mirrored config = some (c, message) ∧ c.errorCode = code := by
  cases a
  case receive msg =>
    simp only [syncStep, SyncChannel.step, htask] at hs
    split_ifs at hs
    cases hs
    rw [askAccess_task, putChannel_task] at h
    exact mirrored_of_receive ((SyncChannel.noticeClear_task _).trans htask) h
  case readError e =>
    simp only [syncStep, SyncChannel.step, htask] at hs
    split_ifs at hs
    cases hs
    rw [askAccess_task, putChannel_task] at h
    cases e with
    | fatal c message => exact ⟨c, message, rfl, Option.some.inj h⟩
    | nonFatal c message => cases h
  all_goals simp [syncStep, SyncChannel.step, htask] at hs

/-- The fatal errors the asynchronous loop sends are those of its reads, which it mirrors, and those
a message asks for. -/
theorem handle_fatal {lockAnswer : Option LockResponse} {incoming : Except Error Message}
    {code : UInt8} (h : (s.handle config lockAnswer incoming).async.fatal = some code) :
    (∃ c message, mirroredToSync incoming = some (c, message) ∧ c.errorCode = code) ∨
    ∃ msg, incoming = .ok msg ∧ msg.messageType ≠ .fatalError ∧
      ¬ Channel.async.continues config.protocol msg := by
  unfold handle at h
  split at h
  · rename_i e
    cases e with
    | fatal c message => exact .inl ⟨c, message, rfl, Option.some.inj h⟩
    | nonFatal c message => cases h
  · rename_i msg
    refine .inr ⟨msg, rfl, ?_⟩
    split at h
    case h_1 => split at h <;> cases h
    case h_3 htype =>
      split_ifs at h with hlength
      · simp [htype, Channel.continues, hlength]
      · cases h
    case h_4 =>
      unfold askClear at h
      split_ifs at h <;> cases h
    case h_5 => split_ifs at h <;> cases h
    case h_9 hfatal _ =>
      split_ifs at h with hcontinues
      · cases h
      · exact ⟨hfatal, hcontinues⟩
    all_goals cases h

/-- A loop that reads no more stays so. -/
theorem step_closing {a : TaskAction} (h : s.async.closing) (hs : s.step config a = some s') :
    s'.async.closing := by
  cases a with
  | registry op =>
    cases hs
    exact h
  | close channel =>
    rcases closeStep_async hs with hsame | hended
    · rwa [hsame]
    · rw [hended]
      rfl
  | sync a => rwa [(syncStep_asyncSame hs).async]
  | push p a => rwa [(pushStep_effect hs).1.async]
  | async a =>
    cases hasync : s.async with
    | writing message ends =>
      obtain rfl : ends = true := by simpa [hasync, AsyncTask.closing] using h
      cases a <;> simp [step, asyncStep, hasync] at hs
      subst hs
      rfl
    | ended => cases a <;> simp [step, asyncStep, hasync] at hs
    | _ => simp [hasync, AsyncTask.closing] at h

end SessionTasks

/-- A step that raises a service request mirrors nothing. -/
theorem raises_of_mirrored {a : SyncAction} {channel : SyncChannel} (config : SessionConfig)
    (h : a.mirrored config ≠ none) : a.raises channel = none := by
  cases a <;> first | rfl | exact absurd rfl h

namespace Mirroring
variable {s s' : Mirroring} {a : TaskAction}

/-- Whatever was sent was handed over, and the queue to the synchronous channel is empty as long as
the asynchronous loop may fill it. -/
structure AllHanded (s : Mirroring) : Prop where
  handed : ∀ channel code, (channel, code) ∈ s.sent → (channel.other, code) ∈ s.handed
  room : s.syncQueue = [] ∨ s.tasks.async.closing

theorem Bound.asyncReceiver (h : s.Bound) : s.asyncReceiver := by
  have hasync := h.async
  unfold Mirroring.asyncReceiver
  split
  · rfl
  · exact bne_iff_ne.mpr h.asyncPusher

/-- The other parts of the session only move its tasks. -/
theorem AllHanded.of_tasks (h : s.AllHanded) (htasks : s.tasks.step config a = some s'.tasks)
    (hsent : s'.sent = s.sent) (hhanded : s'.handed = s.handed)
    (hqueue : s'.syncQueue = s.syncQueue ∨ s.syncQueue ≠ []) : s'.AllHanded where
  handed := by
    rw [hsent, hhanded]
    exact h.handed
  room := by
    rcases h.room with hempty | hclosing
    · rcases hqueue with hsame | hfull
      · exact .inl (hsame.trans hempty)
      · exact absurd hempty hfull
    · exact .inr (SessionTasks.step_closing hclosing htasks)

theorem raiseServiceRequest_same (stb : Option UInt8) :
    (s.raiseServiceRequest stb).sent = s.sent ∧ (s.raiseServiceRequest stb).handed = s.handed ∧
      (s.raiseServiceRequest stb).syncQueue = s.syncQueue := by
  unfold raiseServiceRequest
  split
  · split_ifs <;> exact ⟨rfl, rfl, rfl⟩
  · exact ⟨rfl, rfl, rfl⟩

theorem mirrorFatal_same (fatal : Option (FatalErrorCode × String)) :
    (s.mirrorFatal fatal).sent = s.sent ∧ (s.mirrorFatal fatal).syncQueue = s.syncQueue ∧
      ∀ entry ∈ s.handed, entry ∈ (s.mirrorFatal fatal).handed := by
  unfold mirrorFatal
  split
  · split_ifs
    · exact ⟨rfl, rfl, fun _ => List.mem_cons_of_mem _⟩
    · exact ⟨rfl, rfl, fun _ => id⟩
  · exact ⟨rfl, rfl, fun _ => id⟩

theorem mem_noteSent {channel c : Channel} {code : UInt8} {fatal : Option UInt8}
    (h : (channel, code) ∈ (s.noteSent c fatal).sent) :
    (channel = c ∧ fatal = some code) ∨ (channel, code) ∈ s.sent := by
  rcases List.mem_append.mp h with hnew | hold
  · obtain ⟨code', hcode, heq⟩ := List.mem_map.mp hnew
    obtain ⟨rfl, rfl⟩ := Prod.mk.inj heq
    exact .inl ⟨rfl, Option.mem_toList.mp hcode⟩
  · exact .inr hold

/-- With room in the queue a fatal error is handed over. -/
theorem syncOwn_handed {b : SyncAction} {c : FatalErrorCode} {message : String}
    (tasks : SessionTasks) (hmirrored : b.mirrored config = some (c, message)) (hbound : s.Bound)
    (hroom : s.asyncQueue.length < srqQueueDepth) :
    (.async, c.errorCode) ∈ (s.syncOwn config b tasks).handed := by
  have hnone : b.raises s.tasks.channel = none :=
    raises_of_mirrored config (by simp [hmirrored])
  have hpush : s.mirrorFatal (some (c, message)) = { s with
      asyncQueue := s.asyncQueue ++ [.fatal c message]
      handed := (.async, c.errorCode) :: s.handed } :=
    if_pos ⟨hroom, hbound.asyncReceiver⟩
  simp only [syncOwn, noteSent, hnone, raiseServiceRequest, hmirrored, hpush, List.mem_cons_self]

theorem syncOwn_allHanded (h : s.AllHanded) {b : SyncAction} {tasks : SessionTasks}
    (hg : s.mirrorsAll config (.sync (.own b)))
    (hs : s.tasks.step config (.sync (.own b)) = some tasks) :
    (s.syncOwn config b tasks).AllHanded := by
  obtain ⟨hsent, hhanded, hqueue⟩ := raiseServiceRequest_same (s := s) (b.raises s.tasks.channel)
  obtain ⟨hsent', hqueue', hmore⟩ :=
    mirrorFatal_same (s := s.raiseServiceRequest (b.raises s.tasks.channel)) (b.mirrored config)
  constructor
  · intro channel code hmem
    rcases mem_noteSent hmem with ⟨rfl, hfatal⟩ | hold
    · split at hfatal
      · rename_i htask
        obtain ⟨c, message, hmirrored, rfl⟩ := SessionTasks.syncStep_fatal htask hs hfatal
        obtain ⟨hbound, hroom⟩ := hg (by simp [hmirrored])
        exact syncOwn_handed tasks hmirrored hbound hroom
      · cases hfatal
    · refine hmore _ ?_
      rw [hhanded]
      exact h.handed channel code (by rwa [← hsent, ← hsent'])
  · change s.tasks.syncStep config (.own b) = some tasks at hs
    change _ ∨ tasks.async.closing
    rw [(SessionTasks.syncStep_asyncSame hs).async]
    exact h.room.imp_left ((hqueue'.trans hqueue).trans ·)

theorem mirrorFatalToSync_same (fatal : Option (FatalErrorCode × String)) :
    (s.mirrorFatalToSync fatal).sent = s.sent ∧
      ∀ entry ∈ s.handed, entry ∈ (s.mirrorFatalToSync fatal).handed := by
  unfold mirrorFatalToSync
  split
  · split_ifs
    · exact ⟨rfl, fun _ => List.mem_cons_of_mem _⟩
    · exact ⟨rfl, fun _ => id⟩
  · exact ⟨rfl, fun _ => id⟩

/-- A message that is handled finds the queue empty. -/
theorem asyncHandled_allHanded (h : s.AllHanded) {incoming : Except Error Message}
    {lockAnswer : Option LockResponse} {tasks : SessionTasks}
    (hasync : s.tasks.async = .queued incoming lockAnswer)
    (hg : s.mirrorsAll config (.async .acquire))
    (hs : s.tasks.step config (.async .acquire) = some tasks) :
    (s.asyncHandled incoming tasks).AllHanded := by
  have hempty : s.syncQueue = [] := by
    refine h.room.resolve_right ?_
    rw [hasync]
    exact nofun
  obtain ⟨hbound, hcontinues⟩ := hg incoming lockAnswer hasync
  obtain ⟨hsent, hmore⟩ := mirrorFatalToSync_same (s := s) (mirroredToSync incoming)
  obtain rfl : tasks =
      (s.tasks.take .async .asyncLoop).handle config lockAnswer incoming := by
    simp only [SessionTasks.step, SessionTasks.asyncStep, hasync] at hs
    split at hs
    · rename_i heq _
      cases heq
      exact (Option.some.inj hs).symm
    · cases hs
  have hpush : ∀ c message, mirroredToSync incoming = some (c, message) →
      s.mirrorFatalToSync (mirroredToSync incoming) = { s with
        syncQueue := s.syncQueue ++ [(c, message)]
        handed := (.sync, c.errorCode) :: s.handed } := by
    intro c message hmirrored
    have hreceiver : s.syncReceiver :=
      bne_iff_ne.mpr (hbound (by simp [hmirrored])).fatalPusher
    rw [hmirrored]
    exact if_pos ⟨by simp [hempty, syncQueueDepth], hreceiver⟩
  constructor
  · intro channel code hmem
    rcases mem_noteSent hmem with ⟨rfl, hfatal⟩ | hold
    · rcases SessionTasks.handle_fatal hfatal with
        ⟨c, message, hmirrored, rfl⟩ | ⟨msg, hmsg, hother, hends⟩
      · simp only [asyncHandled, noteSent, hpush c message hmirrored, Channel.other,
          List.mem_cons_self]
      · exact absurd ((hcontinues msg hmsg).resolve_left hother) hends
    · exact hmore _ (h.handed channel code (by rwa [← hsent]))
  · cases incoming with
    | error e =>
      cases e with
      | fatal c message => exact .inr rfl
      | nonFatal c message => exact .inl hempty
    | ok msg => exact .inl hempty

theorem step_allHanded (h : s.AllHanded) (hg : s.mirrorsAll config a)
    (hs : s.step config a = some s') : s'.AllHanded := by
  unfold step at hs
  split at hs
  · obtain ⟨tasks, htasks, rfl⟩ := Option.map_eq_some_iff.mp hs
    exact syncOwn_allHanded h hg htasks
  · split at hs
    · rename_i hasync
      obtain ⟨tasks, htasks, rfl⟩ := Option.map_eq_some_iff.mp hs
      exact asyncHandled_allHanded h hasync hg htasks
    · cases hs
  · split at hs
    · split_ifs at hs
      obtain ⟨tasks, htasks, rfl⟩ := Option.map_eq_some_iff.mp hs
      exact h.of_tasks htasks rfl rfl (.inl rfl)
    · cases hs
  · split at hs
    · rename_i hqueue
      split_ifs at hs
      obtain ⟨tasks, htasks, rfl⟩ := Option.map_eq_some_iff.mp hs
      exact h.of_tasks htasks rfl rfl (.inr (by simp [hqueue]))
    · cases hs
  · obtain ⟨tasks, htasks, rfl⟩ := Option.map_eq_some_iff.mp hs
    exact h.of_tasks htasks rfl rfl (.inl rfl)

end Mirroring
end

namespace Mirroring

/-- Where fatal errors come with both channels bound, those of the synchronous channel with room in
the queue and those of the asynchronous one from its reads: every fatal error sent on one channel is
handed over for the other with the same code. -/
theorem fatal_errors_mirrored (config : SessionConfig) (id : UInt16) (resource : String)
    (locks : LockRegistry) (s : Mirroring)
    (h : Reach (step config) (mirrorsAll config) (start config id resource locks) s) :
    ∀ channel code, (channel, code) ∈ s.sent → (channel.other, code) ∈ s.handed := by
  have hall : s.AllHanded := by
    refine h.invariant (P := AllHanded) ⟨?_, .inl rfl⟩ fun _ _ _ hs hg hstep => step_allHanded hs hg hstep
    exact fun _ _ hmem => absurd hmem List.not_mem_nil
  exact hall.handed

def badPrologue : Error := .fatal .poorlyFormattedMessageHeader "invalid prologue"

/-- A header that is none, on the synchronous channel. -/
theorem fatal_errors_mirrored_prologue :
    ∃ s, Reach (step SessionTasks.plainSession) (mirrorsAll SessionTasks.plainSession)
        (start SessionTasks.plainSession 0 "gpib5" {}) s ∧
      s.sent = [(.sync, 1)] ∧
      ∀ channel code, (channel, code) ∈ s.sent → (channel.other, code) ∈ s.handed := by
  have hrun : Reach (step SessionTasks.plainSession) (mirrorsAll SessionTasks.plainSession)
      (start SessionTasks.plainSession 0 "gpib5" {}) _ :=
    (Reach.refl.tail (a := .async (.bind true)) trivial rfl).tail
      (a := .sync (.own (.readError badPrologue)))
      (fun _ => ⟨⟨by decide, by decide, rfl, by decide⟩, by decide⟩) rfl
  exact ⟨_, hrun, rfl, fatal_errors_mirrored SessionTasks.plainSession 0 "gpib5" {} _ hrun⟩

/-- A session of the second protocol version. -/
def tlsSession : SessionConfig where
  protocol := 0x0200
  maxMessageSize := 1024

/-- Two steps in which a command leaves a service request in the queue. -/
def requestService : List TaskAction :=
  [.sync (.own (.receive SessionTasks.resetCommand)), .sync (.own (.executed { poll := .ok 0x40 }))]

/-- Three fatal errors that stay on their channel: one found while four service requests are queued,
a maximum message size of four bytes, and a request for TLS on the asynchronous channel. -/
theorem fatal_errors_not_mirrored :
    let unmirrored (config : SessionConfig) (actions : List TaskAction) : Prop :=
      (exec (step config) (start config 0 "gpib5" {}) (.async (.bind true) :: actions)).any
        fun s => s.sent.length == 1 && s.handed.isEmpty
    unmirrored SessionTasks.plainSession (requestService ++ requestService ++ requestService ++
      requestService ++ [.sync (.own (.readError badPrologue))]) ∧
    unmirrored SessionTasks.plainSession
      [.async (.read (.ok ⟨.asyncMaximumMessageSize, 0, 0, [0, 0, 1, 0]⟩) "" false),
        .async .acquire] ∧
    unmirrored tlsSession
      [.async (.read (.ok ⟨.asyncStartTLS, 0, 0, []⟩) "" false), .async .acquire] := by
  decide +kernel

end Mirroring
end Ugpibd.Hislip
