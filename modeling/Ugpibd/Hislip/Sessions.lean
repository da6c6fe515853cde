import Ugpibd.Frontend.Takers
import Ugpibd.Library.Runs

/-! HiSLIP sessions as the server keeps them: two connections each, ids that are used again, and
a lock registry shared with the other front-end. A step runs from one await to the next. -/
namespace Ugpibd.Hislip
open Frontend

/-- The synchronous channel: its `InitializeResponse` is being written, its loop runs, or its
task has returned. -/
inductive SyncPhase
  | opening
  | serving
  | ended
  deriving DecidableEq, Repr

/-- The asynchronous channel. A lock request waits with the broadcasts made when it subscribed. -/
inductive AsyncPhase
  | unbound
  | serving
  | waiting (lockString : String) (snapshot : Nat)
  | ended
  deriving DecidableEq, Repr

structure Session where
  id : UInt16
  resource : String
  sync : SyncPhase := .opening
  async : AsyncPhase := .unbound
  deriving DecidableEq, Repr

def Session.holder (session : Session) : HolderId := hislipId session.id

/-- The synchronous channel is being served. -/
def Session.live (session : Session) : Bool := session.sync != .ended

/-- The server. `entries` is the session table, `removals` the ids whose detached clean-up task
has not run yet. `takenBy` is not part of the program: it lists, for each lock held, the sessions
whose requests were granted to make it up. -/
structure Server where
  maxSessions : Nat
  locks : LockRegistry := {}
  entries : Std.ExtTreeMap UInt16 Nat := ∅
  created : Nat := 0
  sessions : Nat → Option Session := fun _ => none
  removals : List UInt16 := []
  takenBy : Takers Nat := fun _ _ => []

/-- One turn of a connection's task, of a clean-up task, or a registry call of the other
front-end. -/
inductive Action
  | initSync (resource : String)
  | initializeResponse (session : Nat) (written : Bool)
  | initAsync (id : UInt16)
  | asyncLock (session : Nat) (lockString : String) (expired : Bool)
  | asyncLockRetry (session : Nat) (expired : Bool)
  | asyncUnlock (session : Nat)
  | asyncEnd (session : Nat)
  | syncEnd (session : Nat)
  | remove (id : UInt16)
  | link (lid : Int32) (call : LockCall)

/-- The loop that looks for a free even id: at most one pass over all of them. -/
def freeId (entries : Std.ExtTreeMap UInt16 Nat) (id : UInt16) : Nat → Option UInt16
  | 0 => none
  | passes + 1 =>
    if entries.contains id then
      if id + 2 = 0 then none else freeId entries (id + 2) passes
    else some id

namespace Server

def put (s : Server) (n : Nat) (session : Session) : Server :=
  { s with sessions := Function.update s.sessions n (some session) }

/-- The registry after a call, and on whose behalf it granted a lock, if it did. -/
def relock (s : Server) (locks : LockRegistry) (granted : Option (Nat × String × HolderId)) :
    Server :=
  { s with locks, takenBy := s.takenBy.update locks granted }

/-- One turn of a session's `request` loop. -/
def tryLock (s : Server) (n : Nat) (session : Session) (lockString : String) (expired : Bool) :
    Server :=
  match s.locks.tryRequest session.resource session.holder lockString with
  | (some _, locks) =>
    (s.relock locks (some (n, session.resource, session.holder))).put n
      { session with async := .serving }
  | (none, locks) =>
    (s.relock locks none).put n
      { session with async := if expired then .serving else .waiting lockString s.locks.released }

def step (s : Server) : Action → Option Server
  | .initSync resource =>
    if s.maxSessions ≤ s.entries.size then some s
    else match freeId s.entries 0 32768 with
      | none => some s
      | some id => some { s.put s.created { id, resource } with
          entries := s.entries.insert id s.created
          created := s.created + 1 }
  | .initializeResponse n written => match s.sessions n with
    | some session =>
      if session.sync = .opening then
        some (s.put n { session with sync := if written then .serving else .ended })
      else none
    | none => none
  | .initAsync id => match s.entries[id]?.bind fun n => (s.sessions n).map (n, ·) with
    | some (n, session) =>
      if session.async = .unbound then some (s.put n { session with async := .serving }) else some s
    | none => some s
  | .asyncLock n lockString expired => match s.sessions n with
    | some session =>
      if session.async = .serving then some (s.tryLock n session lockString expired) else none
    | none => none
  | .asyncLockRetry n expired => match s.sessions n with
    | some session => match session.async with
      | .waiting lockString snapshot =>
        if snapshot < s.locks.released ∨ expired = true then
          some (s.tryLock n session lockString expired)
        else none
      | _ => none
    | none => none
  | .asyncUnlock n => match s.sessions n with
    | some session =>
      if session.async = .serving then
        some (s.relock (s.locks.release session.resource session.holder).2 none)
      else none
    | none => none
  | .asyncEnd n => match s.sessions n with
    | some session =>
      if session.async = .serving then some (s.put n { session with async := .ended }) else none
    | none => none
  | .syncEnd n => match s.sessions n with
    | some session =>
      -- the guard's drop releases at once and leaves the table entry to a task of its own
      if session.sync = .serving then
        some { (s.relock (s.locks.releaseAll session.holder) none).put n
            { session with sync := .ended } with
          removals := session.id :: s.removals }
      else none
    | none => none
  | .remove id =>
    if id ∈ s.removals then
      some { s with entries := s.entries.erase id, removals := s.removals.erase id }
    else none
  | .link lid call => some (s.relock (s.locks.apply (call.madeBy (vxi11Id lid))).2 none)

end Server
end Ugpibd.Hislip
