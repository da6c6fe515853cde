import Ugpibd.Backend.AgilentData
import Ugpibd.Backend.NiData
import Ugpibd.Backend.UsbtmcData
import Ugpibd.Vxi11.Links

/-! `device_write` and `device_read` over the three backends. A backend's failure is one text, and the
two calls tell a timeout by looking for words in it. -/
namespace Ugpibd.Vxi11.DataCalls
open Backend

variable {E : Type}

/-- The backend behind a link, as a call finds it. -/
inductive Adapter
  | niUsbHs (s : NiUsbHs.Controller)
  | agilent82357 (s : Agilent.Controller)
  | usbtmc (s : Usbtmc.Controller)
  deriving DecidableEq, Repr

inductive WriteFailure (E : Type)
  | niUsbHs (failure : NiUsbHs.WriteFailure E)
  | agilent82357 (failure : Agilent.WriteFailure E)
  | usbtmc (failure : Usbtmc.SendFailure E)
  deriving DecidableEq

namespace WriteFailure

def text (usb : UsbErrors E) : WriteFailure E → Text
  | .niUsbHs failure => failure.text usb
  | .agilent82357 failure => failure.text usb
  | .usbtmc failure => failure.text usb

def ranOut (reading : Usbtmc.Reading) : WriteFailure E → Bool
  | .niUsbHs failure => failure.ranOut
  | .agilent82357 failure => failure.ranOut
  | .usbtmc failure => failure.ranOut reading

end WriteFailure

inductive ReadFailure (E : Type)
  | niUsbHs (failure : NiUsbHs.ReadFailure E)
  | agilent82357 (failure : Agilent.ReadFailure E)
  | usbtmc (failure : Usbtmc.ReadFailure E)
  deriving DecidableEq

namespace ReadFailure

def text (usb : UsbErrors E) : ReadFailure E → Text
  | .niUsbHs failure => failure.text usb
  | .agilent82357 failure => failure.text usb
  | .usbtmc failure => failure.text usb

def ranOut (reading : Usbtmc.Reading) : ReadFailure E → Bool
  | .niUsbHs failure => failure.ranOut
  | .agilent82357 failure => failure.ranOut
  | .usbtmc failure => failure.ranOut reading

end ReadFailure

namespace Adapter

def send (adapter : Adapter) (unaddressed : Bool) (len : Nat) : Usb E (WriteFailure E) Unit :=
  match adapter with
  | .niUsbHs s => (if unaddressed then s.sendDataUnaddressed len else s.write len).adapt .niUsbHs
  | .agilent82357 s => (if unaddressed then s.sendDataUnaddressed else s.write).adapt .agilent82357
  | .usbtmc s => s.write.adapt .usbtmc

def receive (adapter : Adapter) (unaddressed : Bool) (pad : UInt8) (maxLen : Nat) :
    Usb E (ReadFailure E) Received :=
  match adapter with
  | .niUsbHs s => (if unaddressed then s.readUnaddressed maxLen else s.read pad maxLen).adapt .niUsbHs
  | .agilent82357 s => (if unaddressed then s.readUnaddressed else s.read).adapt .agilent82357
  | .usbtmc s => (s.read maxLen).adapt .usbtmc

end Adapter

/-- `{e:#}`, in lower case, contains the words. -/
def contains (t : Text) (words : String) : Bool :=
  decide (words.toList <:+: t.render.map Char.toLower)

/-- The call that looks at a failure's text. -/
inductive Looker
  | deviceWrite
  | deviceRead
  deriving DecidableEq, Repr

def Looker.takesForTimeout (t : Text) : Looker → Bool
  | .deviceWrite => contains t "timeout"
  | .deviceRead => contains t "timed out" || contains t "timeout"

/-- One turn of a call's loop: was the link aborted, how much of the deadline is left, the backend as
it is found, and how the USB transfers made in the turn are answered. -/
structure Attempt (E : Type) where
  aborted : Bool := false
  remaining : Nat
  adapter : Adapter
  answers : List (Answer E)
  deriving DecidableEq

/-- The turn gets as far as the backend. -/
def Attempt.Runs (attempt : Attempt E) : Prop :=
  attempt.aborted = false ∧ attempt.remaining ≠ 0

/-- The loop goes on in a state, or the call returns. -/
inductive Turn (σ ρ : Type)
  | goesOn (state : σ)
  | returns (reply : ρ)
  deriving DecidableEq, Repr

/-- Turn after turn; a call whose attempts are used up has not returned. -/
def loop {σ ρ : Type} (turn : σ → Attempt E → Option (Turn σ ρ)) : σ → List (Attempt E) → Option ρ
  | _, [] => none
  | state, attempt :: rest => match turn state attempt with
    | none => none
    | some (.goesOn state) => loop turn state rest
    | some (.returns reply) => some reply

/-- The state after attempts that all let the loop go on. -/
def stateAfter {σ ρ : Type} (turn : σ → Attempt E → Option (Turn σ ρ)) :
    σ → List (Attempt E) → Option σ
  | state, [] => some state
  | state, attempt :: rest => match turn state attempt with
    | some (.goesOn state) => stateAfter turn state rest
    | _ => none

theorem loop_append {σ ρ : Type} {turn : σ → Attempt E → Option (Turn σ ρ)} {state state' : σ}
    {before rest : List (Attempt E)} (h : stateAfter turn state before = some state') :
    loop turn state (before ++ rest) = loop turn state' rest := by
  induction before generalizing state with
  | nil =>
    obtain rfl := Option.some.inj h
    rfl
  | cons attempt before ih =>
    simp only [stateAfter] at h
    split at h
    · rename_i hturn
      rw [List.cons_append, loop, hturn]
      exact ih h
    · cases h

def writeChunk : Nat := 4096
def maxRead : Nat := 65536
def rxReqcnt : Nat := 1
def rxChr : Nat := 2
def rxEnd : Nat := 4

structure WriteReply where
  error : ErrorCode
  size : Nat
  deriving DecidableEq, Repr

/-- A write: on the interface or on a device, of so many bytes; `abortedAtEnd` is what the last look
at the abort flag finds. -/
structure WriteCall where
  interface : Bool
  total : Nat
  abortedAtEnd : Bool := false
  deriving DecidableEq, Repr

namespace WriteCall

/-- What the backend makes of the next chunk. Only the first one is addressed. -/
def chunk (call : WriteCall) (written : Nat) (attempt : Attempt E) :
    Option (Except (WriteFailure E) Unit × List (Answer E)) :=
  attempt.adapter.send (call.interface || written ≠ 0)
    (min (written + writeChunk) call.total - written) attempt.answers

/-- The state is the number of bytes written. -/
def turn (call : WriteCall) (usb : UsbErrors E) (written : Nat) (attempt : Attempt E) :
    Option (Turn Nat WriteReply) :=
  if attempt.aborted then some (.returns ⟨.abort, written⟩)
  else if attempt.remaining = 0 then some (.returns ⟨.ioTimeout, written⟩)
  else match call.chunk written attempt with
    | none => none
    | some (.ok (), _) =>
      let written := min (written + writeChunk) call.total
      if written = call.total then
        some (.returns ⟨if call.abortedAtEnd then .abort else .noError, written⟩)
      else some (.goesOn written)
    | some (.error failure, _) =>
      let timeout := Looker.deviceWrite.takesForTimeout (failure.text usb)
      some (.returns ⟨if timeout then .ioTimeout else .ioError, written⟩)

def deviceWrite (call : WriteCall) (usb : UsbErrors E) (attempts : List (Attempt E)) :
    Option WriteReply :=
  loop (call.turn usb) 0 attempts

end WriteCall

structure ReadReply where
  error : ErrorCode
  reason : Nat
  data : List UInt8
  deriving DecidableEq, Repr

/-- A read; one of no bytes is answered before the loop. -/
structure ReadCall where
  interface : Bool
  pad : UInt8
  requestSize : Nat
  termchr : Option UInt8
  requestSize_pos : 0 < requestSize

namespace ReadCall

def clamped (call : ReadCall) : Nat := min call.requestSize maxRead

/-- Why a read with these bytes is over, as a sum of flags; 0 for no reason. -/
def reason (call : ReadCall) (data : List UInt8) (ended : Bool) : Nat :=
  (if ended then rxEnd else 0) +
  (if call.termchr.isSome ∧ data.getLast? = call.termchr then rxChr else 0) +
  (if data.length = call.requestSize then rxReqcnt else 0)

def slice (call : ReadCall) (data : List UInt8) (attempt : Attempt E) :
    Option (Except (ReadFailure E) Received × List (Answer E)) :=
  attempt.adapter.receive call.interface call.pad (call.clamped - data.length) attempt.answers

/-- The state is the bytes read. -/
def turn (call : ReadCall) (usb : UsbErrors E) (data : List UInt8) (attempt : Attempt E) :
    Option (Turn (List UInt8) ReadReply) :=
  if attempt.aborted then some (.returns ⟨.abort, 0, data⟩)
  else if attempt.remaining = 0 then some (.returns ⟨.ioTimeout, 0, data⟩)
  else match call.slice data attempt with
    | none => none
    | some (.ok received, _) =>
      let data := data ++ received.data
      let reason := call.reason data received.ended
      if reason ≠ 0 ∨ data.length = call.clamped then some (.returns ⟨.noError, reason, data⟩)
      else some (.goesOn data)
    | some (.error failure, _) =>
      -- a timeout is progress towards the deadline
      if Looker.deviceRead.takesForTimeout (failure.text usb) then some (.goesOn data)
      else some (.returns ⟨.ioError, 0, []⟩)

def deviceRead (call : ReadCall) (usb : UsbErrors E) (attempts : List (Attempt E)) :
    Option ReadReply :=
  loop (call.turn usb) [] attempts

end ReadCall
end Ugpibd.Vxi11.DataCalls
