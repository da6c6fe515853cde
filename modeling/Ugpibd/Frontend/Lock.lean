import Mathlib

/-! Instrument locking as the daemon keeps it: one table per resource, one registry
for every front-end. Depths are the source's u32 and wrap as its release build does. -/
namespace Ugpibd.Frontend

/-- Control code of an `AsyncLockResponse`, for both request and release. -/
inductive LockResponse
  | failure
  | successExclusive
  | successShared
  | error
  deriving DecidableEq, Repr

def LockResponse.controlCode : LockResponse → UInt8
  | .failure => 0
  | .successExclusive => 1
  | .successShared => 2
  | .error => 3

def LockResponse.isSuccess : LockResponse → Bool
  | .successExclusive | .successShared => true
  | .failure | .error => false

/-- Front-ends namespace their own ids into this type. -/
abbrev HolderId := UInt64

/-- A HiSLIP session's registry identity. -/
def hislipId (sessionId : UInt16) : HolderId := 0x000100000000 ||| sessionId.toUInt64

/-- A VXI-11 link's registry identity. -/
def vxi11Id (lid : Int32) : HolderId := 0x000200000000 ||| lid.toUInt32.toUInt64

/-- Who holds what on one resource. -/
structure LockTable where
  exclusive : Option (HolderId × UInt32) := none
  sharedName : Option String := none
  shared : Std.ExtTreeMap HolderId UInt32 := ∅
  deriving DecidableEq

namespace LockTable

def isEmpty (table : LockTable) : Bool := table.exclusive.isNone && table.shared.isEmpty

def holdsExclusive (table : LockTable) (id : HolderId) : Bool :=
  table.exclusive.any (fun entry => entry.1 == id)

def holds (table : LockTable) (id : HolderId) : Bool :=
  table.holdsExclusive id || table.shared.contains id

/-- Number of distinct sessions holding any lock here. -/
def holders (table : LockTable) : UInt32 :=
  let exclusiveOnly := match table.exclusive with
    | some (id, _) => if table.shared.contains id then 0 else 1
    | none => 0
  table.shared.size.toUInt32 + exclusiveOnly

def grantsAccess (table : LockTable) (id : HolderId) : Bool := table.holds id || table.isEmpty

/-- The granting half of `try_request`: the changed table, or nothing on a conflict. -/
def grant (table : LockTable) (id : HolderId) (lockString : String) :
    Option (LockTable × LockResponse) :=
  if lockString = "" then
    match table.exclusive with
    | some (holder, depth) =>
      -- already ours: nest
      if holder = id then
        some ({ table with exclusive := some (holder, depth + 1) }, .successExclusive)
      else none
    | none =>
      if table.shared.keys.any (· != id) then none
      else some ({ table with exclusive := some (id, 1) }, .successExclusive)
  else
    let exclusiveElsewhere := table.exclusive.any (fun entry => entry.1 != id)
    let nameClash := table.sharedName.any (· != lockString)
    if exclusiveElsewhere || nameClash then none
    else some ({ table with
      sharedName := some lockString
      shared := table.shared.insert id (table.shared.getD id 0 + 1) }, .successShared)

/-- Take a holder out of the shared set; the name goes with the last one. -/
def removeShared (table : LockTable) (id : HolderId) : LockTable :=
  let shared := table.shared.erase id
  { table with shared, sharedName := if shared.isEmpty then none else table.sharedName }

/-- One level of whatever lock the holder has: exclusive levels go first. -/
def releaseLevel (table : LockTable) (id : HolderId) : Option (LockTable × LockResponse) :=
  match table.exclusive.filter (fun entry => entry.1 == id), table.shared[id]? with
  | some (holder, depth), _ =>
    let depth := depth - 1
    some ({ table with exclusive := if depth = 0 then none else some (holder, depth) },
      .successExclusive)
  | none, some depth =>
    let depth := depth - 1
    some (if depth = 0 then table.removeShared id
      else { table with shared := table.shared.insert id depth }, .successShared)
  | none, none => none

/-- Every level the holder has, as `release_all` edits each table it retains. -/
def releaseHolder (table : LockTable) (id : HolderId) : LockTable :=
  let table := if table.holdsExclusive id then { table with exclusive := none } else table
  if table.shared.contains id then table.removeShared id else table

end LockTable

/-- Daemon-wide lock state. `released` counts the `notify_waiters` calls made so far:
a waiter that subscribed at an earlier count has been woken. -/
structure LockRegistry where
  tables : Std.ExtTreeMap String LockTable := ∅
  released : Nat := 0
  deriving DecidableEq

namespace LockRegistry

/-- One attempt at acquiring. No response means "conflicts right now". -/
def tryRequest (reg : LockRegistry) (resource : String) (id : HolderId) (lockString : String) :
    Option LockResponse × LockRegistry :=
  let table := reg.tables.getD resource {}
  match table.grant id lockString with
  | some (table, granted) =>
    (some granted, { reg with tables := reg.tables.insert resource table })
  | none =>
    -- the entry call has stored the default table, which a refusal takes out again
    let tables := reg.tables.insert resource table
    (none, { reg with tables := if table.isEmpty then tables.erase resource else tables })

/-- Release one level of whatever lock this holder has. -/
def release (reg : LockRegistry) (resource : String) (id : HolderId) :
    LockResponse × LockRegistry :=
  match reg.tables[resource]?.bind (·.releaseLevel id) with
  | none => (.error, reg)
  | some (table, response) => (response, {
      tables := if table.isEmpty then reg.tables.erase resource
        else reg.tables.insert resource table
      released := reg.released + 1 })

/-- Drop every lock this holder has, at every nesting level. -/
def releaseAll (reg : LockRegistry) (id : HolderId) : LockRegistry :=
  let freed := reg.tables.toList.any (fun entry => entry.2.holds id)
  { tables := reg.tables.filterMap fun _ table =>
      let table := table.releaseHolder id
      if table.isEmpty then none else some table
    released := if freed then reg.released + 1 else reg.released }

/-- Is an exclusive lock held, and by how many holders is the resource locked at all. -/
def info (reg : LockRegistry) (resource : String) : Bool × UInt32 :=
  match reg.tables[resource]? with
  | some table => (table.exclusive.isSome, table.holders)
  | none => (false, 0)

/-- May this holder do I/O right now? -/
def hasAccess (reg : LockRegistry) (resource : String) (id : HolderId) : Bool :=
  match reg.tables[resource]? with
  | some table => table.grantsAccess id
  | none => true

/-- Does this holder have any lock on the resource? -/
def holds (reg : LockRegistry) (resource : String) (id : HolderId) : Bool :=
  match reg.tables[resource]? with
  | some table => table.holds id
  | none => false

end LockRegistry

/-- The registry's three mutating calls. -/
inductive LockOp
  | request (resource : String) (id : HolderId) (lockString : String)
  | release (resource : String) (id : HolderId)
  | releaseAll (id : HolderId)
  deriving DecidableEq, Repr

/-- One call and its answer; `release_all` has none. -/
def LockRegistry.apply (reg : LockRegistry) : LockOp → Option LockResponse × LockRegistry
  | .request resource id lockString => reg.tryRequest resource id lockString
  | .release resource id => (some (reg.release resource id).1, (reg.release resource id).2)
  | .releaseAll id => (none, reg.releaseAll id)

end Ugpibd.Frontend
