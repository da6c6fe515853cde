import Ugpibd.Daemon.BusOperations
import Ugpibd.Library.Text

/-! The Prologix front end: what it makes of a client's line. A line that starts with `++` is for the
controller, every other one is data for the instrument. -/
namespace Ugpibd.Prologix
open Library Daemon

inductive LineResult
  | ok
  | response (text : List Char)
  | error (text : List Char)
  | serialPoll (pad : UInt8)
  | trigger (pad : UInt8)
  | srq
  | listenOnly (enable : Option Bool)
  | deviceMode (target : Option (Option UInt8))
  | busLines
  | forward (pad : UInt8) (data : List UInt8) (sendEoi autoRead : Bool)
  | read (untilEoi : Bool) (untilChar : Option UInt8)
  | deviceClear (pad : UInt8)
  | goToLocal (pad : UInt8)
  | localLockout
  | ifc
  | reset
  deriving DecidableEq, Repr

structure PrologixState where
  addr : UInt8 := 0
  autoRead : Bool := false
  eoi : Bool := true
  eosMode : UInt8 := 0
  eotEnable : Bool := false
  eotChar : UInt8 := 0
  readTmoMs : UInt32 := 3000
  deriving DecidableEq, Repr

def PrologixState.withAddr (addr : UInt8) : PrologixState := { addr }

/-- The names after `++`. -/
inductive Name
  | addr
  | auto
  | eoi
  | eos
  | eotEnable
  | eotChar
  | readTmoMs
  | read
  | clr
  | ifc
  | rst
  | ver
  | mode
  | srq
  | lines
  | dev
  | lon
  | spoll
  | trg
  | llo
  | loc
  | status
  | savecfg
  deriving DecidableEq, Repr

def Name.text : Name → List Char
  | .addr => "addr".toList
  | .auto => "auto".toList
  | .eoi => "eoi".toList
  | .eos => "eos".toList
  | .eotEnable => "eot_enable".toList
  | .eotChar => "eot_char".toList
  | .readTmoMs => "read_tmo_ms".toList
  | .read => "read".toList
  | .clr => "clr".toList
  | .ifc => "ifc".toList
  | .rst => "rst".toList
  | .ver => "ver".toList
  | .mode => "mode".toList
  | .srq => "srq".toList
  | .lines => "lines".toList
  | .dev => "dev".toList
  | .lon => "lon".toList
  | .spoll => "spoll".toList
  | .trg => "trg".toList
  | .llo => "llo".toList
  | .loc => "loc".toList
  | .status => "status".toList
  | .savecfg => "savecfg".toList

def Name.ofText (text : List Char) : Option Name :=
  [.addr, .auto, .eoi, .eos, .eotEnable, .eotChar, .readTmoMs, .read, .clr, .ifc, .rst, .ver, .mode,
    .srq, .lines, .dev, .lon, .spoll, .trg, .llo, .loc, .status, .savecfg].find? (·.text = text)

/-- Cut at the first character that the predicate has. -/
def splitOnce (p : Char → Bool) (text : List Char) : Option (List Char × List Char) :=
  match text.dropWhile (!p ·) with
  | [] => none
  | _ :: rest => some (text.takeWhile (!p ·), rest)

/-- A number of 32 bits in decimal, perhaps with a plus sign before it. -/
def parseU32 (text : List Char) : Option UInt32 :=
  let digits := if text.head? = some '+' then text.tail else text
  let n := digits.foldl (fun value c => value * 10 + (c.toNat - 48)) 0
  if digits ≠ [] ∧ digits.all Char.isDigit ∧ n < 2 ^ 32 then some (UInt32.ofNat n) else none

def number (n : Nat) : List Char := (toString n).toList

def parsePad (args : List Char) : Option UInt8 := (parseU8 args).filter (· ≤ 30)

def invalidAddress (args : List Char) : LineResult := .error ("invalid address: ".toList ++ args)

/-- An optional address: the addressed instrument's when there is none. -/
def onPad (args : List Char) (default : UInt8) (result : UInt8 → LineResult) : LineResult :=
  if args = [] then result default
  else match parsePad args with
    | some pad => result pad
    | none => invalidAddress args

/-- `0`, `1` or nothing. -/
inductive Switch
  | off
  | on
  | query
  deriving DecidableEq, Repr

def Switch.ofArgs (args : List Char) : Option Switch :=
  if args = "0".toList then some .off
  else if args = "1".toList then some .on
  else if args = [] then some .query
  else none

def bit (b : Bool) : List Char := if b then "1".toList else "0".toList

namespace PrologixState

/-- A setting that is on or off. -/
def switch (s : PrologixState) (name : Name) (current : Bool) (set : Bool → PrologixState)
    (args : List Char) : PrologixState × LineResult :=
  match Switch.ofArgs args with
  | some .off => (set false, .ok)
  | some .on => (set true, .ok)
  | some .query => (s, .response (bit current))
  | none => (s, .error ("++".toList ++ name.text ++ " requires 0 or 1".toList))

/-- A setting with a value: asked for, set, or refused. -/
def value {α : Type} (s : PrologixState) (current : Nat) (parsed : Option α) (set : α → PrologixState)
    (refusal : LineResult) (args : List Char) : PrologixState × LineResult :=
  if args = [] then (s, .response (number current))
  else match parsed with
    | some a => (set a, .ok)
    | none => (s, refusal)

/-- The four terminators, by their digit. -/
def parseEos (args : List Char) : Option UInt8 :=
  if args = "0".toList then some 0
  else if args = "1".toList then some 1
  else if args = "2".toList then some 2
  else if args = "3".toList then some 3
  else none

def readResult (args : List Char) : LineResult :=
  if args = "eoi".toList ∨ args = [] then .read true none
  else match parseU8 args with
    | some n => .read true (some n)
    | none => .error ("++read invalid arg: ".toList ++ args)

def modeResult (args : List Char) : LineResult :=
  if args = "1".toList then .ok
  else if args = "0".toList then
    .error "device mode not supported (hardware is controller-only)".toList
  else .error "++mode requires 0 or 1".toList

def devResult (args : List Char) : LineResult :=
  if args = [] then .deviceMode none
  else if args = "off".toList then .deviceMode (some none)
  else match parsePad args with
    | some n => .deviceMode (some (some n))
    | none => .error "++dev requires an address 0-30, or off".toList

def lonResult (args : List Char) : LineResult :=
  match Switch.ofArgs args with
  | some .query => .listenOnly none
  | some .off => .listenOnly (some false)
  | some .on => .listenOnly (some true)
  | none => .error "++lon requires 0 or 1".toList

def run (s : PrologixState) (name : Name) (args : List Char) : PrologixState × LineResult :=
  match name with
  | .addr => s.value s.addr.toNat (parsePad args) (fun n => { s with addr := n }) (invalidAddress args) args
  | .auto => s.switch .auto s.autoRead (fun b => { s with autoRead := b }) args
  | .eoi => s.switch .eoi s.eoi (fun b => { s with eoi := b }) args
  | .eos => s.value s.eosMode.toNat (parseEos args) (fun n => { s with eosMode := n })
      (.error "++eos requires 0-3".toList) args
  | .eotEnable => s.switch .eotEnable s.eotEnable (fun b => { s with eotEnable := b }) args
  | .eotChar => s.value s.eotChar.toNat (parseU8 args) (fun n => { s with eotChar := n })
      (.error "++eot_char requires 0-255".toList) args
  | .readTmoMs => s.value s.readTmoMs.toNat (parseU32 args) (fun n => { s with readTmoMs := n })
      (.error "++read_tmo_ms requires integer".toList) args
  | .read => (s, readResult args)
  | .clr => (s, .deviceClear s.addr)
  | .ifc => (s, .ifc)
  | .rst => (s, .reset)
  | .ver => (s, .response "Prologix GPIB-USB Controller version 6.107".toList)
  | .mode => (s, modeResult args)
  | .srq => (s, .srq)
  | .lines => (s, .busLines)
  | .dev => (s, devResult args)
  | .lon => (s, lonResult args)
  | .spoll => (s, onPad args s.addr .serialPoll)
  | .trg => (s, onPad args s.addr .trigger)
  | .llo => (s, .localLockout)
  | .loc => (s, onPad args s.addr .goToLocal)
  | .status | .savecfg => (s, .ok)

end PrologixState

/-- Name and arguments of what follows `++`. -/
def nameArgs (cmd : List Char) : List Char × List Char :=
  match splitOnce isWhitespace cmd with
  | some (name, args) => (trim name, trim args)
  | none => (trim cmd, [])

def utf8 (text : List Char) : List UInt8 := text.flatMap String.utf8EncodeChar

/-- What the selected mode puts after a line. -/
def terminator (eosMode : UInt8) : List UInt8 :=
  if eosMode = 0 then [0x0d, 0x0a] else if eosMode = 1 then [0x0d] else if eosMode = 2 then [0x0a] else []

def isCrLf (c : Char) : Bool := c == '\r' || c == '\n'

namespace PrologixState

def handleCommand (s : PrologixState) (cmd : List Char) : PrologixState × LineResult :=
  let (name, args) := nameArgs cmd
  match Name.ofText name with
  | some name => s.run name args
  | none => (s, .error ("unknown command: ".toList ++ name))

def handleData (s : PrologixState) (line : List Char) : LineResult :=
  .forward s.addr (utf8 line ++ terminator s.eosMode) s.eoi s.autoRead

def handleLine (s : PrologixState) (line : List Char) : PrologixState × LineResult :=
  let line := line.rdropWhile isCrLf
  match line.dropPrefix? "++".toList with
  | some rest => s.handleCommand rest
  | none => (s, s.handleData line)

def applyEot (s : PrologixState) (data : List UInt8) : List UInt8 :=
  if s.eotEnable then data ++ [s.eotChar] else data

end PrologixState

/-- The line reader takes the newline away, and a carriage return before it. -/
def nextLine (sent : List Char) : List Char :=
  if sent.getLast? = some '\r' then sent.dropLast else sent

/-- What a result asks of the backend. -/
def LineResult.op (s : PrologixState) : LineResult → Option LineOp
  | .ok | .response _ | .error _ | .listenOnly none | .deviceMode none => none
  | .forward pad data sendEoi autoRead => some (.forward pad data sendEoi autoRead)
  -- where the read is to end is not looked at
  | .read _ _ => some (.read s.addr)
  | .serialPoll pad => some (.serialPoll pad)
  | .trigger pad => some (.trigger pad)
  | .srq => some .srq
  | .listenOnly (some enable) => some (.listenOnly enable)
  | .deviceMode (some target) => some (.deviceMode target)
  | .busLines => some .busLines
  | .deviceClear pad => some (.deviceClear pad)
  | .goToLocal pad => some (.goToLocal pad)
  | .localLockout => some .localLockout
  | .ifc => some .ifc
  | .reset => some .reset

/-- What the backend answers while a line is served: the first call and the one after it, the text of
a failure, and the modes it reports. -/
structure Replies where
  first : BusReply := .failed
  second : BusReply := .failed
  failure : List Char := []
  listenOnly : Bool := false
  deviceAddress : Option UInt8 := none
  deriving DecidableEq, Repr

/-- The calls an operation makes: the second only after what the first is answered. -/
def callsOf (op : LineOp) (replies : Replies) : List BusCall :=
  op.first.1 :: (op.after op.first.2 replies.first).call.toList

def LineResult.calls (state : PrologixState) (replies : Replies) (result : LineResult) : List BusCall :=
  match result.op state with
  | some op => callsOf op replies
  | none => []

def ln (text : List Char) : List UInt8 := utf8 text ++ [0x0a]

def hex (n : UInt8) : List Char :=
  "0x".toList ++ [Nat.digitChar (n.toNat / 16), Nat.digitChar (n.toNat % 16)]

/-- The bus status register with the names of the lines that are set. -/
def linesText (raw : UInt8) : List Char :=
  hex raw ++ ([("ATN", 0x80), ("DAV", 0x40), ("NDAC", 0x20), ("NRFD", 0x10), ("EOI", 0x08), ("SRQ", 0x04),
    ("IFC", 0x02), ("REN", 0x01)].filter fun line => raw &&& line.2 != 0).flatMap
      (fun line => ' ' :: line.1.toList) ++ if raw = 0 then " (none asserted)".toList else []

/-- What is written back. A failed operation is only logged, but for the two that change a mode. -/
def LineResult.out (s : PrologixState) (replies : Replies) : LineResult → List UInt8
  | .response text => ln text
  | .error text => ln ("error: ".toList ++ text)
  | .forward _ _ _ autoRead => match autoRead, replies.first, replies.second with
    | true, .done, .data bytes _ => s.applyEot bytes
    | _, _, _ => []
  | .read _ _ => match replies.first with
    | .data bytes _ => s.applyEot bytes
    | _ => []
  | .serialPoll _ => match replies.first with
    | .status stb => ln (number stb.toNat)
    | _ => []
  | .srq => match replies.first with
    | .level asserted => ln (bit asserted)
    | _ => []
  | .listenOnly none => ln (bit replies.listenOnly)
  | .deviceMode none => match replies.deviceAddress with
    | some addr => ln (number addr.toNat)
    | none => ln "off".toList
  | .listenOnly (some _) | .deviceMode (some _) => match replies.first with
    | .done => []
    | _ => ln ("error: ".toList ++ replies.failure)
  | .busLines => match replies.first with
    | .status raw => ln (linesText raw)
    | _ => []
  | .ok | .trigger _ | .deviceClear _ | .goToLocal _ | .localLockout | .ifc | .reset => []

end Ugpibd.Prologix
