import Ugpibd.Daemon.BusOperations
import Ugpibd.Frontend.Takers
import Ugpibd.Vxi11.Rpc

/-! The core channel's links and locks: every connection may name every link, and a lock wait
keeps its own reference to one. A step runs a connection's task from one await to the next. -/
namespace Ugpibd.Vxi11
open Frontend Daemon

/-- `Device_ErrorCode`. -/
inductive ErrorCode
  | noError
  | syntaxError
  | deviceNotAccessible
  | invalidLinkIdentifier
  | parameterError
  | channelNotEstablished
  | operationNotSupported
  | outOfResources
  | deviceLockedByAnotherLink
  | noLockHeldByThisLink
  | ioTimeout
  | ioError
  | invalidAddress
  | abort
  | channelAlreadyEstablished
  deriving DecidableEq, Repr

def ErrorCode.asU32 : ErrorCode → UInt32
  | .noError => 0
  | .syntaxError => 1
  | .deviceNotAccessible => 3
  | .invalidLinkIdentifier => 4
  | .parameterError => 5
  | .channelNotEstablished => 6
  | .operationNotSupported => 8
  | .outOfResources => 9
  | .deviceLockedByAnotherLink => 11
  | .noLockHeldByThisLink => 12
  | .ioTimeout => 15
  | .ioError => 17
  | .invalidAddress => 21
  | .abort => 23
  | .channelAlreadyEstablished => 29

/-- What a `create_link` device name resolves to. -/
inductive DeviceAddr
  | pad (pad : UInt8)
  | interface
  deriving DecidableEq, Repr

/-- A link as the table and the calls on it share it. `number` stands for the shared reference
itself and `creator` for the connection it was made on; the program keeps neither. -/
structure Link where
  lid : Int32
  kind : DeviceAddr
  number : Nat
  creator : Nat
  deriving DecidableEq, Repr

def Link.holder (link : Link) : HolderId := vxi11Id link.lid

/-- Locks on the interface are scoped to it, not to an address its bus handle carries. -/
def Link.resource (link : Link) : String :=
  match link.kind with
  | .interface => "gpib0:intf"
  | .pad pad => resourceKey pad

structure CreateLinkResp where
  error : ErrorCode
  lid : Int32
  abortPort : UInt16
  maxRecvSize : UInt32
  deriving DecidableEq, Repr

inductive Reply
  | createLink (resp : CreateLinkResp)
  | deviceError (error : ErrorCode)
  | other
  deriving DecidableEq, Repr

def refuse (error : ErrorCode) : Reply := .createLink ⟨error, 0, 0, 0⟩

/-- Where a connection's task is: in `read_record`, in one of the two lock waits with the
broadcasts made when it subscribed, in `write_record`, or returned. -/
inductive Phase
  | reading
  | deviceLock (link : Link) (snapshot : Nat)
  | createLink (link : Link) (snapshot : Nat)
  | replying (reply : Reply)
  | finished
  deriving DecidableEq, Repr

structure Conn where
  owned : List Int32 := []
  phase : Phase := .reading
  deriving DecidableEq, Repr

/-- Server-wide state, with the connections it serves. `created`, `takenBy` and `destroyed` are
not part of the program: links made so far, who took each lock, and the links removed from the
table. -/
structure Shared where
  maxRecvSize : UInt32 := 65536
  maxLinks : Nat := 64
  abortPort : UInt16 := 0
  locks : LockRegistry := {}
  links : Std.ExtTreeMap Int32 Link := ∅
  nextLid : Int32 := 1
  conns : Nat → Conn := fun _ => {}
  created : Nat := 0
  takenBy : Takers Link := fun _ _ => []
  destroyed : List Link := []

/-- The records that bear on links and locks. `device` is the outcome of parsing the name,
`ignored` a record that is no call, `other` any that is answered without touching either. -/
inductive Call
  | createLink (device : Except ErrorCode DeviceAddr) (lockDevice : Bool)
  | destroyLink (lid : Int32)
  | deviceLock (lid : Int32) (waitlock : Bool)
  | deviceUnlock (lid : Int32)
  | other
  | ignored

/-- One turn of a connection's task, or a registry call of the other front-end. `expired` says
whether the lock timeout has run out, `written` whether the reply went out. -/
inductive Action
  | call (c : Nat) (call : Call) (expired : Bool)
  | lockRetry (c : Nat) (expired : Bool)
  | lockAbort (c : Nat)
  | replied (c : Nat) (written : Bool)
  | hangup (c : Nat) (stream : Stream)
  | session (sessionId : UInt16) (call : LockCall)

namespace Shared

def setConn (s : Shared) (c : Nat) (conn : Conn) : Shared :=
  { s with conns := Function.update s.conns c conn }

def setPhase (s : Shared) (c : Nat) (phase : Phase) : Shared :=
  s.setConn c { s.conns c with phase }

def reply (s : Shared) (c : Nat) (reply : Reply) : Shared := s.setPhase c (.replying reply)

/-- The registry after a call, and on which link's behalf it granted a lock, if it did. -/
def relock (s : Shared) (locks : LockRegistry) (granted : Option (Link × String × HolderId)) :
    Shared :=
  { s with locks, takenBy := s.takenBy.update locks granted }

def newLink (s : Shared) (c : Nat) (kind : DeviceAddr) : Link := ⟨s.nextLid, kind, s.created, c⟩

def insertLink (s : Shared) (c : Nat) (link : Link) : Shared :=
  { s.setConn c { s.conns c with owned := (s.conns c).owned ++ [link.lid] } with
    links := s.links.insert link.lid link
    nextLid := s.nextLid + 1
    created := s.created + 1 }

/-- Take an id out of the table, and out of the list of the connection that asked. -/
def removeLink (s : Shared) (c : Nat) (lid : Int32) : Shared :=
  { s.setConn c { s.conns c with owned := (s.conns c).owned.filter (· != lid) } with
    links := s.links.erase lid
    destroyed := s.links[lid]?.toList ++ s.destroyed }

def linkCreated (s : Shared) (link : Link) : Reply :=
  .createLink ⟨.noError, link.lid, s.abortPort, s.maxRecvSize⟩

/-- One attempt of `create_link` at the lock: without it no link comes into being. -/
def createLinkTurn (s : Shared) (c : Nat) (link : Link) (expired : Bool) : Shared :=
  match s.locks.tryRequest link.resource link.holder "" with
  | (some _, locks) =>
    (s.relock locks (some (link, link.resource, link.holder))).reply c (s.linkCreated link)
  | (none, locks) =>
    if expired then
      ((s.relock locks none).removeLink c link.lid).reply c (refuse .deviceLockedByAnotherLink)
    else (s.relock locks none).setPhase c (.createLink link s.locks.released)

/-- One attempt of `device_lock`. -/
def deviceLockTurn (s : Shared) (c : Nat) (link : Link) (expired : Bool) : Shared :=
  match s.locks.tryRequest link.resource link.holder "" with
  | (some _, locks) =>
    (s.relock locks (some (link, link.resource, link.holder))).reply c (.deviceError .noError)
  | (none, locks) =>
    (s.relock locks none).setPhase c (if expired then
      .replying (.deviceError .deviceLockedByAnotherLink) else .deviceLock link s.locks.released)

/-- The part of a call up to its first await. -/
def dispatch (s : Shared) (c : Nat) (expired : Bool) : Call → Shared
  | .createLink (.error e) _ => s.reply c (refuse e)
  | .createLink (.ok kind) lockDevice =>
    if s.maxLinks ≤ s.links.size then s.reply c (refuse .outOfResources)
    else
      let link := s.newLink c kind
      if lockDevice then (s.insertLink c link).createLinkTurn c link expired
      else (s.insertLink c link).reply c (s.linkCreated link)
  | .destroyLink lid => match s.links[lid]? with
    | some link => ((s.removeLink c lid).relock (s.locks.releaseAll link.holder) none).reply c
        (.deviceError .noError)
    | none => s.reply c (.deviceError .invalidLinkIdentifier)
  | .deviceLock lid waitlock => match s.links[lid]? with
    | some link =>
      if s.locks.holds link.resource link.holder then
        s.reply c (.deviceError .deviceLockedByAnotherLink)
      else s.deviceLockTurn c link (expired || !waitlock)
    | none => s.reply c (.deviceError .invalidLinkIdentifier)
  | .deviceUnlock lid => match s.links[lid]? with
    | some link =>
      if s.locks.holds link.resource link.holder then
        (s.relock (s.locks.release link.resource link.holder).2 none).reply c
          (.deviceError .noError)
      else s.reply c (.deviceError .noLockHeldByThisLink)
    | none => s.reply c (.deviceError .invalidLinkIdentifier)
  | .other => s.reply c .other
  | .ignored => s

/-- The links of the listed ids that are in the table, and the table without them. -/
def removeAll : List Int32 → Std.ExtTreeMap Int32 Link → List Link × Std.ExtTreeMap Int32 Link
  | [], links => ([], links)
  | lid :: owned, links =>
    let (removed, rest) := removeAll owned (links.erase lid)
    (links[lid]?.toList ++ removed, rest)

/-- What follows the loop when the peer has hung up between records. -/
def teardown (s : Shared) (c : Nat) : Shared :=
  let (removed, links) := removeAll (s.conns c).owned s.links
  let locks := removed.foldl (fun locks link => locks.releaseAll link.holder) s.locks
  { (s.relock locks none).setPhase c .finished with
    links, destroyed := removed ++ s.destroyed }

/-- The record cap is above what one call may carry, so that an over-long write is answered. -/
def maxRecord (s : Shared) : Nat := s.maxRecvSize.toNat * 2 + 1024

def step (s : Shared) : Action → Option Shared
  | .call c call expired => match (s.conns c).phase with
    | .reading => some (s.dispatch c expired call)
    | _ => none
  | .lockRetry c expired => match (s.conns c).phase with
    | .deviceLock link snapshot =>
      if snapshot < s.locks.released ∨ expired = true then some (s.deviceLockTurn c link expired)
      else none
    | .createLink link snapshot =>
      if snapshot < s.locks.released ∨ expired = true then some (s.createLinkTurn c link expired)
      else none
    | _ => none
  | .lockAbort c => match (s.conns c).phase with
    | .deviceLock _ _ => some (s.reply c (.deviceError .abort))
    | _ => none
  | .replied c written => match (s.conns c).phase with
    | .replying _ => some (s.setPhase c (if written then .reading else .finished))
    | _ => none
  | .hangup c stream => match (s.conns c).phase with
    | .reading => match readRecord s.maxRecord stream with
      | .ok none => some (s.teardown c)
      | .ok (some _) => none
      -- the error leaves the function from inside the loop
      | .error _ => some (s.setPhase c .finished)
    | _ => none
  | .session sessionId call => some (s.relock (s.locks.apply (call.madeBy (hislipId sessionId))).2 none)

end Shared
end Ugpibd.Vxi11
