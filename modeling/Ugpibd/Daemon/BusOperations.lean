import Ugpibd.Frontend.Lock

/-! The operations the front-ends put on the shared bus, each as the backend calls it makes.
A program point names the call under way; the choices are what the code reads meanwhile. -/
namespace Ugpibd.Daemon
open Frontend

/-- The key a lock is taken under: the instrument, whatever protocol names it. -/
def resourceKey (pad : UInt8) : String := "gpib" ++ toString pad.toNat

def maxRead : Nat := 65536
def writeChunk : Nat := 4096
def stbRqs : UInt8 := 0x40
def stbMav : UInt8 := 0x10

/-- One awaited call on the backend while the bus is held. -/
inductive BusCall
  | write (pad : UInt8) (data : List UInt8) (sendEoi : Bool)
  | read (pad : UInt8) (maxLen : Nat)
  | sendDataUnaddressed (data : List UInt8) (sendEoi : Bool)
  | serialPoll (pad : UInt8)
  | trigger (pad : UInt8)
  | deviceClear (pad : UInt8)
  | goToRemote (pad : UInt8)
  | goToLocal (pad : UInt8)
  | ren (enable : Bool)
  | localLockout
  | srqAsserted
  | busLines
  | ifc
  | init (myPad : UInt8)
  | setListenOnly (enable : Bool)
  | setDeviceMode (target : Option UInt8)
  deriving DecidableEq, Repr

/-- The instrument a call addresses on the bus. -/
def BusCall.pad : BusCall → Option UInt8
  | .write pad .. | .read pad _ | .serialPoll pad | .trigger pad | .deviceClear pad
  | .goToRemote pad | .goToLocal pad => some pad
  | .sendDataUnaddressed .. | .ren _ | .localLockout | .srqAsserted | .busLines | .ifc | .init _
  | .setListenOnly _ | .setDeviceMode _ => none

/-- What the backend answers. -/
inductive BusReply
  | done
  | data (bytes : List UInt8) (eom : Bool)
  | status (stb : UInt8)
  | level (asserted : Bool)
  | timedOut
  | failed
  deriving DecidableEq, Repr

/-- What an operation reads besides the reply: an abort or a passed deadline, a service request
on its own subscription, a reply that came back inside its slice. -/
structure Choice where
  stop : Bool := false
  srqFired : Bool := false
  early : Bool := false
  deriving DecidableEq, Repr

/-- The operations of a HiSLIP session, and its service-request forwarder's poll. -/
inductive HislipOp
  | execute (cmd : List UInt8) (expectResponse : Bool)
  | trigger
  | deviceClear
  | remoteLocalControl (controlCode : UInt8)
  | statusQuery
  | pollForServiceRequest
  deriving DecidableEq, Repr

/-- The operations of a VXI-11 device link, and its service-request forwarder's poll. `consumed`
is the status byte a forwarded service request left behind. -/
inductive LinkOp
  | deviceWrite (data : List UInt8) (sendEoi : Bool)
  | deviceRead (requestSize : Nat) (termChar : Option UInt8)
  | deviceReadstb (consumed : Option UInt8)
  | deviceTrigger
  | deviceClear
  | deviceRemote
  | deviceLocal
  | srqPoll
  deriving DecidableEq, Repr

/-- The Prologix lines that reach the backend. -/
inductive LineOp
  | forward (pad : UInt8) (data : List UInt8) (sendEoi autoRead : Bool)
  | read (pad : UInt8)
  | serialPoll (pad : UInt8)
  | trigger (pad : UInt8)
  | srq
  | listenOnly (enable : Bool)
  | deviceMode (target : Option UInt8)
  | busLines
  | deviceClear (pad : UInt8)
  | goToLocal (pad : UInt8)
  | localLockout
  | ifc
  | reset
  deriving DecidableEq, Repr

/-- An operation and on whose behalf it runs. -/
inductive Op
  | hislip (sessionId : UInt16) (pad : UInt8) (op : HislipOp)
  | vxi11 (lid : Int32) (pad : UInt8) (op : LinkOp) (waitlock : Bool)
  | prologix (line : LineOp)
  deriving DecidableEq, Repr

/-- Which call of its operation a task is in. -/
inductive Point
  | executeWrite
  | executeMavPoll
  | executeSrqLevel
  | executeSrqPoll
  | executeRead (serviceRequest : Option UInt8)
  | executeSrqCheck
  | chunk (written : Nat)
  | slice (data : List UInt8)
  | pacing (data : List UInt8) (eom : Option Bool)
  | forwardWrite
  | pollStatus
  | pollLevel
  | secondTenure
  | last
  deriving DecidableEq, Repr

/-- What follows a reply: another step of the same tenure (none while the task only sleeps on
the bus), a tenure of its own for the next call, or the end of the operation. -/
inductive After
  | next (call : Option BusCall) (point : Point)
  | rejoin (call : BusCall) (point : Point)
  | finished
  deriving DecidableEq, Repr

/-- The call that follows, in this tenure or in one of its own. -/
def After.call : After → Option BusCall
  | .next call _ => call
  | .rejoin call _ => some call
  | .finished => none

/-- How an operation passes the locks: not at all, by waiting for as long as it takes, by being
refused at once, or by waiting out the client's lock timeout. -/
inductive Gate
  | ungated
  | wait
  | refuse
  | bounded
  deriving DecidableEq, Repr

def HislipOp.gate : HislipOp → Gate
  | .execute .. | .trigger | .deviceClear => .wait
  | .remoteLocalControl _ | .statusQuery | .pollForServiceRequest => .ungated

def LinkOp.gate (waitlock : Bool) : LinkOp → Gate
  | .srqPoll => .ungated
  | _ => if waitlock then .bounded else .refuse

namespace Op

def gate : Op → Gate
  | .hislip _ _ op => op.gate
  | .vxi11 _ _ op waitlock => op.gate waitlock
  | .prologix _ => .ungated

def gated (op : Op) : Bool := op.gate != .ungated

/-- The identity an operation's locks are held under; a Prologix client has none. -/
def holder : Op → Option HolderId
  | .hislip sessionId .. => some (hislipId sessionId)
  | .vxi11 lid .. => some (vxi11Id lid)
  | .prologix _ => none

/-- The instrument an operation is for. -/
def pad : Op → Option UInt8
  | .hislip _ pad _ | .vxi11 _ pad .. => some pad
  | .prologix line => match line with
    | .forward pad .. | .read pad | .serialPoll pad | .trigger pad | .deviceClear pad
    | .goToLocal pad => some pad
    | .srq | .listenOnly _ | .deviceMode _ | .busLines | .localLockout | .ifc | .reset => none

/-- The operations documented to work without a lock. -/
def exempt : Op → Bool
  | .hislip _ _ .statusQuery | .hislip _ _ .pollForServiceRequest | .vxi11 _ _ .srqPoll _ => true
  | _ => false

/-- The instrument an operation's bus traffic is addressed to: driving REN or sending a lockout
addresses nobody. -/
def target : Op → Option UInt8
  | .hislip _ pad (.remoteLocalControl controlCode) =>
    if controlCode = 2 ∨ controlCode = 3 ∨ controlCode = 5 ∨ controlCode = 6 then some pad else none
  | op => op.pad

/-- A read of nothing is answered before the gate. -/
def answeredAtOnce : Op → Bool
  | .vxi11 _ _ (.deviceRead requestSize _) _ => requestSize == 0
  | _ => false

/-- The operation answers its client without the bus once it is past the gate. -/
def answeredWithoutBus : Op → Bool
  | .vxi11 _ _ (.deviceReadstb consumed) _ => consumed.isSome
  | _ => false

end Op

/-- The call for the next piece of a `device_write`: only the first one addresses. -/
def chunkCall (pad : UInt8) (data : List UInt8) (sendEoi : Bool) (written : Nat) : BusCall :=
  let stop := min (written + writeChunk) data.length
  let chunk := (data.drop written).take (stop - written)
  let eoi := sendEoi && stop == data.length
  if written = 0 then .write pad chunk eoi else .sendDataUnaddressed chunk eoi

/-- The top of the `device_read` loop. -/
def readLoop (pad : UInt8) (requestSize : Nat) (data : List UInt8) (choice : Choice) : After :=
  if choice.stop then .finished
  else .next (some (.read pad (min requestSize maxRead - data.length))) (.slice data)

/-- The bottom of the `device_read` loop, with the received bytes already in `data`. -/
def readChunk (pad : UInt8) (requestSize : Nat) (termChar : Option UInt8) (data : List UInt8)
    (eom : Bool) (choice : Choice) : After :=
  let chr := termChar.isSome && data.getLast? == termChar
  if eom || chr || data.length == requestSize || data.length == min requestSize maxRead then .finished
  else readLoop pad requestSize data choice

/-- The first call of each operation; none where it ends before making one. -/
def HislipOp.first (pad : UInt8) : HislipOp → Option (BusCall × Point)
  | .execute cmd _ => some (.write pad cmd true, .executeWrite)
  | .trigger => some (.trigger pad, .last)
  | .deviceClear => some (.deviceClear pad, .last)
  | .remoteLocalControl controlCode =>
    if controlCode = 0 then some (.ren false, .last)
    else if controlCode = 1 then some (.ren true, .last)
    else if controlCode = 2 then some (.goToLocal pad, .secondTenure)
    else if controlCode = 3 then some (.goToRemote pad, .last)
    else if controlCode = 4 then some (.ren true, .secondTenure)
    else if controlCode = 5 then some (.goToRemote pad, .secondTenure)
    else if controlCode = 6 then some (.goToLocal pad, .last)
    else none
  | .statusQuery => some (.serialPoll pad, .last)
  | .pollForServiceRequest => some (.serialPoll pad, .pollStatus)

def LinkOp.first (pad : UInt8) (choice : Choice) : LinkOp → Option (BusCall × Point)
  | .deviceWrite data sendEoi =>
    if choice.stop then none else some (chunkCall pad data sendEoi 0, .chunk 0)
  | .deviceRead requestSize _ =>
    if choice.stop then none else some (.read pad (min requestSize maxRead), .slice [])
  | .deviceReadstb _ | .srqPoll => some (.serialPoll pad, .last)
  | .deviceTrigger => some (.trigger pad, .last)
  | .deviceClear => some (.deviceClear pad, .last)
  | .deviceRemote => some (.goToRemote pad, .last)
  | .deviceLocal => some (.goToLocal pad, .last)

def LineOp.first : LineOp → BusCall × Point
  | .forward pad data sendEoi autoRead =>
    (.write pad data sendEoi, if autoRead then .forwardWrite else .last)
  | .read pad => (.read pad maxRead, .last)
  | .serialPoll pad => (.serialPoll pad, .last)
  | .trigger pad => (.trigger pad, .last)
  | .srq => (.srqAsserted, .last)
  | .listenOnly enable => (.setListenOnly enable, .last)
  | .deviceMode target => (.setDeviceMode target, .last)
  | .busLines => (.busLines, .last)
  | .deviceClear pad => (.deviceClear pad, .last)
  | .goToLocal pad => (.goToLocal pad, .last)
  | .localLockout => (.localLockout, .last)
  | .ifc => (.ifc, .last)
  | .reset => (.init 0, .last)

def Op.first (choice : Choice) : Op → Option (BusCall × Point)
  | .hislip _ pad op => op.first pad
  | .vxi11 _ pad op _ => op.first pad choice
  | .prologix line => some line.first

/-- How `execute` goes on: poll before draining, read, and tell whether the read took the very
service request it was about. -/
def executeAfter (pad : UInt8) (expectResponse : Bool) (reply : BusReply) (choice : Choice) :
    Point → After
  | .executeWrite => match reply with
    | .done =>
      if expectResponse then .next (some .srqAsserted) .executeSrqLevel
      else .next (some (.serialPoll pad)) .executeMavPoll
    | _ => .finished
  | .executeMavPoll => match reply with
    | .status stb =>
      if stb &&& stbMav = 0 then .finished
      else .next (some (.read pad maxRead)) (.executeRead (if stb &&& stbRqs = 0 then none else some stb))
    | _ => .finished
  | .executeSrqLevel => match reply with
    | .level true => .next (some (.serialPoll pad)) .executeSrqPoll
    | _ => .next (some (.read pad maxRead)) (.executeRead none)
  | .executeSrqPoll => match reply with
    | .status stb =>
      .next (some (.read pad maxRead)) (.executeRead (if stb &&& stbRqs = 0 then none else some stb))
    | _ => .next (some (.read pad maxRead)) (.executeRead none)
  | .executeRead serviceRequest => match reply with
    | .data bytes _ =>
      if serviceRequest.isNone && !bytes.isEmpty && choice.srqFired then
        .next (some .srqAsserted) .executeSrqCheck
      else .finished
    | _ => .finished
  | _ => .finished

def remoteLocalAfter (controlCode : UInt8) (reply : BusReply) : Point → After
  | .secondTenure => match reply with
    | .done => .rejoin (if controlCode = 2 then .ren false else .localLockout) .last
    | _ => .finished
  | _ => .finished

/-- How the forwarder's poll goes on: it asks again while somebody still holds the SRQ line. -/
def pollAfter (pad : UInt8) (reply : BusReply) (choice : Choice) : Point → After
  | .pollStatus => match reply with
    | .status stb => if stb &&& stbRqs = 0 then .rejoin .srqAsserted .pollLevel else .finished
    | _ => .finished
  | .pollLevel => match reply with
    | .level true => if choice.stop then .finished else .rejoin (.serialPoll pad) .pollStatus
    | _ => .finished
  | _ => .finished

def HislipOp.after (pad : UInt8) (point : Point) (reply : BusReply) (choice : Choice) :
    HislipOp → After
  | .execute _ expectResponse => executeAfter pad expectResponse reply choice point
  | .remoteLocalControl controlCode => remoteLocalAfter controlCode reply point
  | .pollForServiceRequest => pollAfter pad reply choice point
  | .trigger | .deviceClear | .statusQuery => .finished

def writeAfter (pad : UInt8) (data : List UInt8) (sendEoi : Bool) (reply : BusReply)
    (choice : Choice) : Point → After
  | .chunk written => match reply with
    | .done =>
      let stop := min (written + writeChunk) data.length
      if stop = data.length ∨ choice.stop = true then .finished
      else .next (some (chunkCall pad data sendEoi stop)) (.chunk stop)
    | _ => .finished
  | _ => .finished

def readAfter (pad : UInt8) (requestSize : Nat) (termChar : Option UInt8) (reply : BusReply)
    (choice : Choice) : Point → After
  | .slice data => match reply with
    | .data bytes eom =>
      if bytes.isEmpty && choice.early then .next none (.pacing data (some eom))
      else readChunk pad requestSize termChar (data ++ bytes) eom choice
    | .timedOut =>
      if choice.early then .next none (.pacing data none) else readLoop pad requestSize data choice
    | _ => .finished
  | .pacing data (some eom) => readChunk pad requestSize termChar data eom choice
  | .pacing data none => readLoop pad requestSize data choice
  | _ => .finished

def LinkOp.after (pad : UInt8) (point : Point) (reply : BusReply) (choice : Choice) :
    LinkOp → After
  | .deviceWrite data sendEoi => writeAfter pad data sendEoi reply choice point
  | .deviceRead requestSize termChar => readAfter pad requestSize termChar reply choice point
  | _ => .finished

def forwardAfter (pad : UInt8) (reply : BusReply) : Point → After
  | .forwardWrite => match reply with
    | .done => .next (some (.read pad maxRead)) .last
    | _ => .finished
  | _ => .finished

def LineOp.after (point : Point) (reply : BusReply) : LineOp → After
  | .forward pad .. => forwardAfter pad reply point
  | _ => .finished

/-- How an operation goes on after a reply; a task that only slept gets none to look at. -/
def Op.after (reply : BusReply) (choice : Choice) (point : Point) : Op → After
  | .hislip _ pad op => op.after pad point reply choice
  | .vxi11 _ pad op _ => op.after pad point reply choice
  | .prologix line => line.after point reply

/-- The instrument a call of this operation reaches: addressing is sticky, so data sent without
an addressing sequence goes where the first chunk was addressed. -/
def Op.traffic (op : Op) : BusCall → Option UInt8
  | .sendDataUnaddressed .. => op.target
  | call => call.pad

end Ugpibd.Daemon
