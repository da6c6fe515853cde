import Ugpibd.Daemon.BusOperations
import Ugpibd.Frontend.LockSpec
import Ugpibd.Hislip.SyncChannel

/-! The tasks that serve one session: the loop of each channel, and three that push messages of the
server's own onto them. They share the session's entry, the lock registry and the writer of each
channel, which one task has at a time. A step runs from one await to the next. -/
namespace Ugpibd.Hislip
open Daemon (HislipOp)
open Frontend Library

inductive Pusher
  | syncFatalPusher
  | srqForwarder
  | asyncPusher
  deriving DecidableEq, Repr

/-- The channel a pusher writes on. -/
def Pusher.channel : Pusher → Channel
  | .syncFatalPusher => .sync
  | .srqForwarder | .asyncPusher => .async

inductive TaskName
  | syncLoop
  | asyncLoop
  | pusher (p : Pusher)
  deriving DecidableEq, Repr

/-- What a pusher waits for: something to push, the forwarder's poll, the writer, or the write. -/
inductive PushTask
  | waiting
  | polling
  | queued (message : Message)
  | writing (message : Message)
  | ended
  deriving DecidableEq, Repr

/-- How far a command or trigger of the synchronous loop has come with the lock. A parked one has
seen this many broadcasts of the registry. -/
inductive Access
  | notAsked
  | parked (snapshot : Nat)
  | granted
  deriving DecidableEq, Repr

/-- What the asynchronous loop has the instrument do. -/
inductive AsyncOp
  | deviceClear
  | remoteLocalControl (controlCode : UInt8)
  | statusQuery (messageId : UInt32)
  deriving DecidableEq, Repr

def AsyncOp.op : AsyncOp → HislipOp
  | .deviceClear => .deviceClear
  | .remoteLocalControl controlCode => .remoteLocalControl controlCode
  | .statusQuery _ => .statusQuery

/-- What the asynchronous loop waits for. A lock request waits for the lock and then for the writer;
a device clear has the writer when it waits for the lock. -/
inductive AsyncTask
  | unbound
  | reading
  | requesting (msg : Message) (lockString : String) (snapshot : Nat)
  | queued (incoming : Except Error Message) (lockAnswer : Option LockResponse)
  | parked (snapshot : Nat)
  | onBus (op : AsyncOp)
  | writing (message : Message) (ends : Bool)
  | ended

/-- The operation a task of the synchronous loop is for. -/
def SyncTask.op : SyncTask → Option HislipOp
  | .executing _ cmd => some (.execute cmd (queryHint cmd))
  | .triggering => some .trigger
  | _ => none

/-- A session's tasks. `closed` says on which channel the client's close has reached the server. The
operations begun, newest first, are not part of the program. -/
structure SessionTasks where
  id : UInt16
  resource : String
  locks : LockRegistry := {}
  channel : SyncChannel
  access : Access := .notAsked
  async : AsyncTask := .unbound
  pushers : Pusher → PushTask
  writer : Channel → Option TaskName := fun _ => none
  closed : Channel → Bool := fun _ => false
  begun : List HislipOp := []

/-- The synchronous loop: a step of its own, a broadcast of the registry while it is parked, the
writer for an error or an acknowledgement, or the end of its stream. -/
inductive SyncLoopAction
  | own (a : SyncAction)
  | retry
  | acquire
  | gone

/-- The asynchronous loop. `lockString` is a lock request's payload as text and `expired` says that
its time is up; `live` is the status byte polled. -/
inductive AsyncLoopAction
  | bind (srq : Bool)
  | read (incoming : Except Error Message) (lockString : String) (expired : Bool)
  | retryLock (expired : Bool)
  | acquire
  | retryClear
  | completed (live : Except String UInt8)
  | written (ok : Bool)
  | gone

/-- A pusher has a message to push, or for the forwarder a notification that makes it poll. -/
inductive PushAction
  | push (message : Message)
  | notified
  | polled (stb : Option UInt8)
  | acquire
  | written (ok : Bool)

/-- A step of one of the tasks, a registry call of somebody else, or the client's close on one of
the connections. -/
inductive TaskAction
  | registry (op : LockOp)
  | close (channel : Channel)
  | sync (a : SyncLoopAction)
  | async (a : AsyncLoopAction)
  | push (p : Pusher) (a : PushAction)

/-- Whose step it is. -/
def TaskAction.name : TaskAction → Option TaskName
  | .sync _ => some .syncLoop
  | .async _ => some .asyncLoop
  | .push p _ => some (.pusher p)
  | .registry _ | .close _ => none

namespace SessionTasks

/-- A session whose `InitializeResponse` has been sent. -/
def start (config : SessionConfig) (id : UInt16) (resource : String) (locks : LockRegistry) :
    SessionTasks where
  id := id
  resource := resource
  locks := locks
  channel := .start config
  pushers := fun p => if p = .syncFatalPusher then .waiting else .ended

def holder (s : SessionTasks) : HolderId := hislipId s.id

def hasAccess (s : SessionTasks) : Bool := s.locks.hasAccess s.resource s.holder

def take (s : SessionTasks) (channel : Channel) (name : TaskName) : SessionTasks :=
  { s with writer := Function.update s.writer channel (some name) }

def giveUp (s : SessionTasks) (channel : Channel) : SessionTasks :=
  { s with writer := Function.update s.writer channel none }

def setPusher (s : SessionTasks) (p : Pusher) (task : PushTask) : SessionTasks :=
  { s with pushers := Function.update s.pushers p task }

/-- The synchronous loop returns. Its guard releases the session's locks, and its pusher is
aborted. -/
def endSync (s : SessionTasks) : SessionTasks :=
  { s with
    channel := { s.channel with task := .ended }
    access := .notAsked
    locks := s.locks.releaseAll s.holder
    pushers := Function.update s.pushers .syncFatalPusher .ended
    writer := Function.update s.writer .sync none }

/-- The asynchronous loop returns, and the forwarder and its pusher are aborted. -/
def endAsync (s : SessionTasks) : SessionTasks :=
  { s with
    async := .ended
    pushers := fun p => if p.channel = .async then .ended else s.pushers p
    writer := Function.update s.writer .async none }

def putChannel (s : SessionTasks) (channel : SyncChannel) : SessionTasks :=
  if channel.task = .ended then { s with channel }.endSync else { s with channel }

/-- `wait_for_access` in the synchronous loop: the operation begins, or its task is parked. -/
def askAccess (s : SessionTasks) : SessionTasks :=
  match s.channel.task.op with
  | some op =>
    if s.hasAccess then { s with access := .granted, begun := op :: s.begun }
    else { s with access := .parked s.locks.released }
  | none => s

/-- One turn of the `request` loop. -/
def tryLock (s : SessionTasks) (msg : Message) (lockString : String) (expired : Bool) :
    SessionTasks :=
  match s.locks.tryRequest s.resource s.holder lockString with
  | (some answer, locks) => { s with locks, async := .queued (.ok msg) (some answer) }
  | (none, locks) =>
    if expired then { s with locks, async := .queued (.ok msg) (some .failure) }
    else { s with locks, async := .requesting msg lockString s.locks.released }

/-- The asynchronous loop writes its answer, after which it may return. -/
def answer (s : SessionTasks) (message : Message) (ends : Bool) : SessionTasks :=
  { s with async := .writing message ends }

def beginAsync (s : SessionTasks) (op : AsyncOp) : SessionTasks :=
  { s with async := .onBus op, begun := op.op :: s.begun }

/-- `wait_for_access` in the asynchronous loop. A clear is counted before the bus is touched. -/
def askClear (s : SessionTasks) : SessionTasks :=
  if s.hasAccess then
    { s with channel := { s.channel with clearEpoch := s.channel.clearEpoch + 1 } }.beginAsync
      .deviceClear
  else { s with async := .parked s.locks.released }

/-- What the asynchronous loop does with a message once it has the writer. -/
def handle (config : SessionConfig) (s : SessionTasks) (lockAnswer : Option LockResponse) :
    Except Error Message → SessionTasks
  | .error e => s.answer (.ofError e) e.isFatal
  | .ok msg => match msg.messageType with
    | .asyncLock => match lockAnswer with
      | some answer => s.answer ⟨.asyncLockResponse, answer.controlCode, 0, []⟩ false
      | none =>
        let (answer, locks) := s.locks.release s.resource s.holder
        { s with locks }.answer ⟨.asyncLockResponse, answer.controlCode, 0, []⟩ false
    | .asyncLockInfo =>
      let (exclusive, holders) := s.locks.info s.resource
      s.answer ⟨.asyncLockInfoResponse, if exclusive then 1 else 0, holders, []⟩ false
    | .asyncMaximumMessageSize =>
      if msg.payload.length ≠ 8 then
        s.answer (.ofError (.fatal .poorlyFormattedMessageHeader
          "AsyncMaximumMessageSize payload must be 8 bytes")) true
      else
        let size := UInt64.ofNat (fromBeBytes msg.payload)
        { s with channel := { s.channel with
            entry := { s.channel.entry with clientMaxMessageSize := size } } }.answer
          ⟨.asyncMaximumMessageSizeResponse, 0, 0, toBeBytes 8 config.maxMessageSize.toNat⟩ false
    | .asyncDeviceClear => s.askClear
    | .asyncRemoteLocalControl =>
      if msg.controlCode ≤ 6 then s.beginAsync (.remoteLocalControl msg.controlCode)
      else s.answer (.ofError (.nonFatal .unrecognizedControlCode
        ("unknown remote/local code " ++ toString msg.controlCode.toNat))) false
    | .asyncStatusQuery => s.beginAsync (.statusQuery msg.messageParameter)
    | .fatalError => s.endAsync
    | .error => { s with async := .reading }.giveUp .async
    | other =>
      if Channel.async.continues config.protocol msg then
        s.answer (.ofError (.nonFatal .unrecognizedMessageType
          ("unexpected async message: " ++ other.name))) false
      else s.answer (.ofError (.fatal .secureConnectionFailed "TLS not supported")) true

/-- The answer to a message whose operation is over. -/
def complete (config : SessionConfig) (s : SessionTasks) (live : Except String UInt8) :
    AsyncOp → SessionTasks
  | .deviceClear => s.answer ⟨.asyncDeviceClearAcknowledge,
      if config.modes.prefersOverlapped then 1 else 0, 0, []⟩ false
  | .remoteLocalControl _ => s.answer ⟨.asyncRemoteLocalResponse, 0, 0, []⟩ false
  | .statusQuery messageId => { s with channel := s.channel.statusQuery live messageId }.answer
      ⟨.asyncStatusResponse, s.channel.entry.statusByte live messageId, 0, []⟩ false

def syncStep (config : SessionConfig) (s : SessionTasks) : SyncLoopAction → Option SessionTasks
  | .own a => match a with
    | .receive _ | .readError _ =>
      if s.closed .sync then none
      else (s.channel.step config a).map fun channel => (s.putChannel channel).askAccess
    | .executed _ | .triggered =>
      if s.access = .granted then
        (s.channel.step config a).map fun channel => { s with channel, access := .notAsked }
      else none
    | .beginReply =>
      if s.writer .sync = none then
        (s.channel.step config a).map fun channel => { s with channel }.take .sync .syncLoop
      else none
    | .sendNext => (s.channel.step config a).map fun channel => { s with channel }
    | .replied | .written | .writeFailed =>
      if s.writer .sync = some .syncLoop then
        (s.channel.step config a).map fun channel => (s.giveUp .sync).putChannel channel
      else none
    | _ => none
  | .retry => match s.access with
    | .parked snapshot => if snapshot < s.locks.released then some s.askAccess else none
    | _ => none
  | .acquire => match s.channel.task, s.writer .sync with
    | .writing .., none => some (s.take .sync .syncLoop)
    | _, _ => none
  | .gone => if s.closed .sync ∧ s.channel.task = .reading then some s.endSync else none

def asyncStep (config : SessionConfig) (s : SessionTasks) : AsyncLoopAction → Option SessionTasks
  | .bind srq => match s.async, s.closed .async with
    | .unbound, false => some { s with
        async := .reading
        pushers := fun p => match p with
          | .syncFatalPusher => s.pushers .syncFatalPusher
          | .srqForwarder => if srq then .waiting else .ended
          | .asyncPusher => .waiting }
    | _, _ => none
  | .read incoming lockString expired => match s.async, s.closed .async with
    | .reading, false => match incoming with
      | .ok msg =>
        if msg.messageType = .asyncLock ∧ msg.controlCode ≠ 0 then
          some (s.tryLock msg lockString expired)
        else some { s with async := .queued (.ok msg) none }
      | .error e => some { s with async := .queued (.error e) none }
    | _, _ => none
  | .retryLock expired => match s.async with
    | .requesting msg lockString snapshot =>
      if snapshot < s.locks.released ∨ expired then some (s.tryLock msg lockString expired)
      else none
    | _ => none
  | .acquire => match s.async, s.writer .async with
    | .queued incoming lockAnswer, none =>
      some ((s.take .async .asyncLoop).handle config lockAnswer incoming)
    | _, _ => none
  | .retryClear => match s.async with
    | .parked snapshot => if snapshot < s.locks.released then some s.askClear else none
    | _ => none
  | .completed live => match s.async with
    | .onBus op => some (s.complete config live op)
    | _ => none
  | .written ok => match s.async with
    | .writing _ ends =>
      if ok ∧ ¬ ends then some ({ s with async := .reading }.giveUp .async) else some s.endAsync
    | _ => none
  | .gone => match s.async with
    | .reading => if s.closed .async then some s.endAsync else none
    | _ => none

def pushStep (s : SessionTasks) (p : Pusher) : PushAction → Option SessionTasks
  | .push message => match p, s.pushers p with
    | .srqForwarder, _ => none
    | p, .waiting => some (s.setPusher p (.queued message))
    | _, _ => none
  | .notified => match p, s.pushers p with
    | .srqForwarder, .waiting => some { s.setPusher p .polling with
        begun := .pollForServiceRequest :: s.begun }
    | _, _ => none
  | .polled stb => match s.pushers p with
    | .polling => match stb with
      | some stb =>
        if stb &&& stbRqs ≠ 0 then
          some { s.setPusher p (.queued ⟨.asyncServiceRequest, stb, 0, []⟩) with
            channel := (s.channel.notePolled (some stb)).raiseServiceRequest (some stb) }
        else none
      | none => some (s.setPusher p .waiting)
    | _ => none
  | .acquire => match s.pushers p, s.writer p.channel with
    | .queued message, none =>
      some ((s.setPusher p (.writing message)).take p.channel (.pusher p))
    | _, _ => none
  | .written ok => match s.pushers p with
    | .writing _ =>
      -- a fatal error is pushed once, and a failed write ends the others too
      some ((s.setPusher p (if ok ∧ p ≠ .syncFatalPusher then .waiting else .ended)).giveUp
        p.channel)
    | _ => none

/-- The close reaches the server: a loop that is reading sees it at once. -/
def closeStep (s : SessionTasks) (channel : Channel) : Option SessionTasks :=
  if s.closed channel then none
  else
    let s := { s with closed := Function.update s.closed channel true }
    match channel with
    | .sync => if s.channel.task = .reading then some s.endSync else some s
    | .async => match s.async with
      | .reading => some s.endAsync
      | _ => some s

def step (config : SessionConfig) (s : SessionTasks) : TaskAction → Option SessionTasks
  | .registry op => some { s with locks := (s.locks.apply op).2 }
  | .close channel => s.closeStep channel
  | .sync a => s.syncStep config a
  | .async a => s.asyncStep config a
  | .push p a => s.pushStep p a

/-- The synchronous channel's half is as it was: its loop, its pusher and its writer. -/
structure SyncSame (s s' : SessionTasks) : Prop where
  task : s'.channel.task = s.channel.task
  access : s'.access = s.access
  pusher : s'.pushers .syncFatalPusher = s.pushers .syncFatalPusher
  writer : s'.writer .sync = s.writer .sync
  closed : s'.closed = s.closed

/-- The asynchronous channel's half is as it was. -/
structure AsyncSame (s s' : SessionTasks) : Prop where
  async : s'.async = s.async
  pushers : ∀ p, p.channel = .async → s'.pushers p = s.pushers p
  writer : s'.writer .async = s.writer .async
  closed : s'.closed = s.closed

section
variable {config : SessionConfig} {s s' : SessionTasks}

/-- What a step of the synchronous loop can be. -/
inductive SyncEffect (config : SessionConfig) (s : SessionTasks) :
    SyncLoopAction → SessionTasks → Prop
  | read (a : SyncAction) (channel : SyncChannel) : s.closed .sync = false →
      s.channel.task = .reading → s.channel.step config a = some channel →
      SyncEffect config s (.own a) (s.putChannel channel).askAccess
  | doneOnBus (a : SyncAction) (channel : SyncChannel) : s.access = .granted →
      s.channel.task.op.isSome → s.channel.step config a = some channel →
      SyncEffect config s (.own a) { s with channel, access := .notAsked }
  | beginReply (channel : SyncChannel) : s.writer .sync = none →
      s.channel.step config .beginReply = some channel →
      SyncEffect config s (.own .beginReply) ({ s with channel }.take .sync .syncLoop)
  | sendNext (channel : SyncChannel) : s.channel.step config .sendNext = some channel →
      SyncEffect config s (.own .sendNext) { s with channel }
  | wrote (a : SyncAction) (channel : SyncChannel) : s.writer .sync = some .syncLoop →
      s.channel.step config a = some channel →
      SyncEffect config s (.own a) ((s.giveUp .sync).putChannel channel)
  | retry (snapshot : Nat) : s.access = .parked snapshot → snapshot < s.locks.released →
      SyncEffect config s .retry s.askAccess
  | acquire (message : Message) (ends : Bool) : s.channel.task = .writing message ends →
      s.writer .sync = none → SyncEffect config s .acquire (s.take .sync .syncLoop)
  | gone : s.closed .sync → s.channel.task = .reading → SyncEffect config s .gone s.endSync

theorem syncStep_effect {a : SyncLoopAction} (hs : s.syncStep config a = some s') :
    SyncEffect config s a s' := by
  cases a with
  | own a =>
    cases a <;> simp only [syncStep, reduceCtorEq] at hs
    case receive | readError =>
      split_ifs at hs with hclosed
      obtain ⟨channel, hstep, rfl⟩ := Option.map_eq_some_iff.mp hs
      refine .read _ channel (Bool.eq_false_iff.mpr hclosed) ?_ hstep
      cases SyncChannel.step_effect hstep
      assumption
    case executed | triggered =>
      split_ifs at hs with hgranted
      obtain ⟨channel, hstep, rfl⟩ := Option.map_eq_some_iff.mp hs
      refine .doneOnBus _ channel hgranted ?_ hstep
      cases SyncChannel.step_effect hstep
      rename_i htask
      rw [htask]
      rfl
    case beginReply =>
      split_ifs at hs with hfree
      obtain ⟨channel, hstep, rfl⟩ := Option.map_eq_some_iff.mp hs
      exact .beginReply channel hfree hstep
    case sendNext =>
      obtain ⟨channel, hstep, rfl⟩ := Option.map_eq_some_iff.mp hs
      exact .sendNext channel hstep
    case replied | written | writeFailed =>
      split_ifs at hs with hown
      obtain ⟨channel, hstep, rfl⟩ := Option.map_eq_some_iff.mp hs
      exact .wrote _ channel hown hstep
  | retry =>
    simp only [syncStep] at hs
    split at hs
    · split_ifs at hs with hreleased
      cases hs
      exact .retry _ ‹_› hreleased
    · cases hs
  | acquire =>
    simp only [syncStep] at hs
    split at hs <;> cases hs
    exact .acquire _ _ ‹_› ‹_›
  | gone =>
    simp only [syncStep] at hs
    split_ifs at hs with hgone
    cases hs
    exact .gone hgone.1 hgone.2

/-- What a step of the asynchronous loop can be. -/
inductive AsyncEffect (config : SessionConfig) (s : SessionTasks) :
    AsyncLoopAction → SessionTasks → Prop
  | bind (srq : Bool) : s.async = .unbound → s.closed .async = false →
      AsyncEffect config s (.bind srq) { s with
        async := .reading
        pushers := fun p => match p with
          | .syncFatalPusher => s.pushers .syncFatalPusher
          | .srqForwarder => if srq then .waiting else .ended
          | .asyncPusher => .waiting }
  | readLock (msg : Message) (lockString : String) (expired : Bool) : s.async = .reading →
      s.closed .async = false → msg.messageType = .asyncLock → msg.controlCode ≠ 0 →
      AsyncEffect config s (.read (.ok msg) lockString expired) (s.tryLock msg lockString expired)
  | read (incoming : Except Error Message) (lockString : String) (expired : Bool) :
      s.async = .reading → s.closed .async = false →
      (∀ msg, incoming = .ok msg → ¬(msg.messageType = .asyncLock ∧ msg.controlCode ≠ 0)) →
      AsyncEffect config s (.read incoming lockString expired) { s with
        async := .queued incoming none }
  | retryLock (msg : Message) (lockString : String) (snapshot : Nat) (expired : Bool) :
      s.async = .requesting msg lockString snapshot → snapshot < s.locks.released ∨ expired →
      AsyncEffect config s (.retryLock expired) (s.tryLock msg lockString expired)
  | acquire (incoming : Except Error Message) (lockAnswer : Option LockResponse) :
      s.async = .queued incoming lockAnswer → s.writer .async = none →
      AsyncEffect config s .acquire ((s.take .async .asyncLoop).handle config lockAnswer incoming)
  | retryClear (snapshot : Nat) : s.async = .parked snapshot → snapshot < s.locks.released →
      AsyncEffect config s .retryClear s.askClear
  | completed (live : Except String UInt8) (op : AsyncOp) : s.async = .onBus op →
      AsyncEffect config s (.completed live) (s.complete config live op)
  | written (message : Message) : s.async = .writing message false →
      AsyncEffect config s (.written true) ({ s with async := .reading }.giveUp .async)
  | writtenLast (ok : Bool) (message : Message) (ends : Bool) : s.async = .writing message ends →
      ¬(ok ∧ ¬ends) → AsyncEffect config s (.written ok) s.endAsync
  | gone : s.async = .reading → s.closed .async → AsyncEffect config s .gone s.endAsync

theorem asyncStep_effect {a : AsyncLoopAction} (hs : s.asyncStep config a = some s') :
    AsyncEffect config s a s' := by
  cases a <;> simp only [asyncStep] at hs
  case bind srq =>
    split at hs <;> cases hs
    exact .bind srq ‹_› ‹_›
  case read incoming lockString expired =>
    split at hs
    · rename_i hreading hopen
      cases incoming with
      | ok msg =>
        simp only at hs
        split_ifs at hs with hlock <;> cases hs
        · exact .readLock msg lockString expired hreading hopen hlock.1 hlock.2
        · refine .read (.ok msg) lockString expired hreading hopen ?_
          rintro _ ⟨⟩
          exact hlock
      | error e =>
        cases hs
        exact .read (.error e) lockString expired hreading hopen nofun
    · cases hs
  case retryLock expired =>
    split at hs
    · split_ifs at hs with hturn
      cases hs
      exact .retryLock _ _ _ expired ‹_› hturn
    · cases hs
  case acquire =>
    split at hs <;> cases hs
    exact .acquire _ _ ‹_› ‹_›
  case retryClear =>
    split at hs
    · split_ifs at hs with hreleased
      cases hs
      exact .retryClear _ ‹_› hreleased
    · cases hs
  case completed live =>
    split at hs <;> cases hs
    exact .completed live _ ‹_›
  case written ok =>
    split at hs
    · rename_i message ends hwriting
      split_ifs at hs with hmore <;> cases hs
      · obtain ⟨rfl, hends⟩ := hmore
        obtain rfl := Bool.eq_false_iff.mpr hends
        exact .written message hwriting
      · exact .writtenLast ok message ends hwriting hmore
    · cases hs
  case gone =>
    split at hs
    · split_ifs at hs with hclosed
      cases hs
      exact .gone ‹_› hclosed
    · cases hs

theorem take_syncSame (name : TaskName) : SyncSame s (s.take .async name) :=
  ⟨rfl, rfl, rfl, rfl, rfl⟩

theorem endAsync_syncSame : SyncSame s s.endAsync :=
  ⟨rfl, rfl, rfl, rfl, rfl⟩

theorem SyncSame.trans {s'' : SessionTasks} (h : SyncSame s s') (h' : SyncSame s' s'') :
    SyncSame s s'' where
  task := h'.task.trans h.task
  access := h'.access.trans h.access
  pusher := h'.pusher.trans h.pusher
  writer := h'.writer.trans h.writer
  closed := h'.closed.trans h.closed

theorem askClear_syncSame : SyncSame s s.askClear := by
  unfold askClear
  split_ifs <;> exact ⟨rfl, rfl, rfl, rfl, rfl⟩

theorem tryLock_syncSame (msg : Message) (lockString : String) (expired : Bool) :
    SyncSame s (s.tryLock msg lockString expired) := by
  unfold tryLock
  split
  · exact ⟨rfl, rfl, rfl, rfl, rfl⟩
  · split_ifs <;> exact ⟨rfl, rfl, rfl, rfl, rfl⟩

theorem handle_syncSame (lockAnswer : Option LockResponse) (incoming : Except Error Message) :
    SyncSame s (s.handle config lockAnswer incoming) := by
  unfold handle
  split
  · exact ⟨rfl, rfl, rfl, rfl, rfl⟩
  · split
    case h_4 => exact askClear_syncSame
    case h_1 => split <;> exact ⟨rfl, rfl, rfl, rfl, rfl⟩
    all_goals first
      | exact ⟨rfl, rfl, rfl, rfl, rfl⟩
      | split_ifs <;> exact ⟨rfl, rfl, rfl, rfl, rfl⟩

/-- The asynchronous loop leaves the synchronous channel's half alone. -/
theorem asyncStep_syncSame {a : AsyncLoopAction} (hs : s.asyncStep config a = some s') :
    SyncSame s s' := by
  cases asyncStep_effect hs with
  | bind | read | written => exact ⟨rfl, rfl, rfl, rfl, rfl⟩
  | readLock | retryLock => exact tryLock_syncSame _ _ _
  | acquire => exact (take_syncSame .asyncLoop).trans (handle_syncSame _ _)
  | retryClear => exact askClear_syncSame
  | completed live op => cases op <;> exact ⟨rfl, rfl, rfl, rfl, rfl⟩
  | writtenLast | gone => exact endAsync_syncSame

theorem endSync_asyncSame : AsyncSame s s.endSync where
  async := rfl
  pushers := by
    intro p hp
    refine Function.update_of_ne ?_ _ _
    rintro rfl
    cases hp
  writer := rfl
  closed := rfl

theorem putChannel_asyncSame (channel : SyncChannel) : AsyncSame s (s.putChannel channel) := by
  unfold putChannel
  split_ifs
  · exact ⟨rfl, endSync_asyncSame.pushers, rfl, rfl⟩
  · exact ⟨rfl, fun _ _ => rfl, rfl, rfl⟩

theorem askAccess_asyncSame : AsyncSame s s.askAccess := by
  unfold askAccess
  split
  · split_ifs <;> exact ⟨rfl, fun _ _ => rfl, rfl, rfl⟩
  · exact ⟨rfl, fun _ _ => rfl, rfl, rfl⟩

theorem AsyncSame.trans {s'' : SessionTasks} (h : AsyncSame s s') (h' : AsyncSame s' s'') :
    AsyncSame s s'' where
  async := h'.async.trans h.async
  pushers := fun p hp => (h'.pushers p hp).trans (h.pushers p hp)
  writer := h'.writer.trans h.writer
  closed := h'.closed.trans h.closed

/-- The synchronous loop leaves the asynchronous channel's half alone. -/
theorem syncStep_asyncSame {a : SyncLoopAction} (hs : s.syncStep config a = some s') :
    AsyncSame s s' := by
  have hplain : ∀ {t : SessionTasks}, t.async = s.async → t.pushers = s.pushers →
      t.writer .async = s.writer .async → t.closed = s.closed → AsyncSame s t :=
    fun hasync hpushers hwriter hclosed => ⟨hasync, fun p _ => congrFun hpushers p, hwriter, hclosed⟩
  cases syncStep_effect hs with
  | read => exact (putChannel_asyncSame _).trans askAccess_asyncSame
  | doneOnBus | beginReply | sendNext | acquire => exact hplain rfl rfl rfl rfl
  | wrote a channel =>
    have hgave : AsyncSame s (s.giveUp .sync) := hplain rfl rfl rfl rfl
    exact hgave.trans (putChannel_asyncSame channel)
  | retry => exact askAccess_asyncSame
  | gone => exact endSync_asyncSame

/-- What a pusher's step leaves alone. -/
structure PushSame (p : Pusher) (s s' : SessionTasks) : Prop where
  task : s'.channel.task = s.channel.task
  access : s'.access = s.access
  async : s'.async = s.async
  pushers : ∀ q, q ≠ p → s'.pushers q = s.pushers q
  writer : ∀ channel, channel ≠ p.channel → s'.writer channel = s.writer channel
  closed : s'.closed = s.closed
  begun : p ≠ .srqForwarder → s'.begun = s.begun

/-- And what it does with the writer: nothing while it has not got it, or take it or give it up. -/
inductive PushWriter (p : Pusher) (s s' : SessionTasks) : Prop
  | same : s'.writer = s.writer → (∀ message, s.pushers p ≠ .writing message) → PushWriter p s s'
  | took (message : Message) : s'.writer p.channel = some (.pusher p) →
      s'.pushers p = .writing message → PushWriter p s s'
  | gaveUp : s'.writer p.channel = none → PushWriter p s s'

theorem pushStep_effect {p : Pusher} {a : PushAction} (hs : s.pushStep p a = some s') :
    PushSame p s s' ∧ PushWriter p s s' := by
  have hset : ∀ task, PushSame p s (s.setPusher p task) := fun task =>
    ⟨rfl, rfl, rfl, fun q hq => Function.update_of_ne hq _ _, fun _ _ => rfl, rfl, fun _ => rfl⟩
  cases a <;> simp only [pushStep] at hs
  case push message =>
    split at hs <;> cases hs
    rename_i hwaiting
    exact ⟨hset _, .same rfl (by simp [hwaiting])⟩
  case notified =>
    split at hs <;> cases hs
    rename_i hwaiting
    exact ⟨⟨rfl, rfl, rfl, (hset _).pushers, fun _ _ => rfl, rfl, fun hp => absurd rfl hp⟩,
      .same rfl (by simp [hwaiting])⟩
  case polled stb =>
    split at hs
    · rename_i hpolling
      split at hs
      · split_ifs at hs
        cases hs
        exact ⟨⟨rfl, rfl, rfl, (hset _).pushers, fun _ _ => rfl, rfl, fun _ => rfl⟩,
          .same rfl (by simp [hpolling])⟩
      · cases hs
        exact ⟨hset _, .same rfl (by simp [hpolling])⟩
    · cases hs
  case acquire =>
    split at hs <;> cases hs
    rename_i message _ _
    exact ⟨⟨rfl, rfl, rfl, (hset _).pushers, fun _ hne => Function.update_of_ne hne _ _, rfl,
        fun _ => rfl⟩,
      .took message (Function.update_self ..) (Function.update_self ..)⟩
  case written ok =>
    split at hs <;> cases hs
    exact ⟨⟨rfl, rfl, rfl, (hset _).pushers, fun _ hne => Function.update_of_ne hne _ _, rfl,
        fun _ => rfl⟩,
      .gaveUp (Function.update_self ..)⟩

theorem PushSame.syncSame {p : Pusher} (h : PushSame p s s') (hp : p.channel = .async) :
    SyncSame s s' where
  task := h.task
  access := h.access
  pusher := h.pushers _ (by rintro rfl; cases hp)
  writer := h.writer _ (by simp [hp])
  closed := h.closed

theorem PushSame.asyncSame {p : Pusher} (h : PushSame p s s') (hp : p.channel = .sync) :
    AsyncSame s s' where
  async := h.async
  pushers := fun q hq => h.pushers q (by rintro rfl; rw [hp] at hq; cases hq)
  writer := h.writer _ (by simp [hp])
  closed := h.closed

/-- The close ends the asynchronous loop or leaves it where it is. -/
theorem closeStep_async {channel : Channel} (hs : s.closeStep channel = some s') :
    s'.async = s.async ∨ s'.async = .ended := by
  unfold closeStep at hs
  split_ifs at hs
  cases channel with
  | sync =>
    simp only at hs
    split_ifs at hs <;> cases hs <;> exact .inl rfl
  | async =>
    simp only at hs
    split at hs <;> cases hs
    · exact .inr rfl
    · exact .inl rfl

end

end SessionTasks
end Ugpibd.Hislip
