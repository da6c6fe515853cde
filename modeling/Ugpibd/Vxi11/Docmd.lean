import Ugpibd.Vxi11.Links
import Ugpibd.Vxi11.Messages

/-! `device_docmd`, the command set of the interface link. The daemon's state and what the backend
does with it are left open. -/
namespace Ugpibd.Vxi11.Docmd
open Messages

variable {σ : Type}

/-- The control lines a bus status can ask for. -/
structure BusLines where
  ren : Bool
  srq : Bool
  ndac : Bool
  deriving DecidableEq, Repr

/-- What a command reaches. A line or a command that fails is reported by `false` or by no lines,
since the answers depend on nothing else of the error. -/
structure Interface (σ : Type) where
  /-- Is there such a link, and is it the interface's? -/
  linkFor : Int32 → σ → Option Bool
  acquireAccess : (lid : Int32) → (flags lockTimeoutMs : UInt32) → σ → Except ErrorCode Unit × σ
  takeAbort : (lid : Int32) → σ → Bool × σ
  sendBusCommand : List UInt8 → σ → Bool × σ
  busLines : σ → Option BusLines × σ
  setAtn : Bool → σ → Bool × σ
  ren : Bool → σ → Bool × σ
  controllerPad : σ → UInt8
  setControllerPad : UInt8 → σ → Bool × σ
  ifc : σ → Bool × σ

inductive Command
  | sendCommand
  | busStatus
  | atnControl
  | renControl
  | passControl
  | busAddress
  | ifcControl
  deriving DecidableEq, Repr

def Command.code : Command → Int32
  | .sendCommand => 0x020000
  | .busStatus => 0x020001
  | .atnControl => 0x020002
  | .renControl => 0x020003
  | .passControl => 0x020004
  | .busAddress => 0x02000A
  | .ifcControl => 0x020010

def Command.ofCode (cmd : Int32) : Option Command :=
  [.sendCommand, .busStatus, .atnControl, .renControl, .passControl, .busAddress, .ifcControl].find?
    fun command => command.code = cmd

/-- The data of a request as one unsigned integer; of more bytes than it has, the last ones count. -/
def uintIn (parms : DeviceDocmdParms) : UInt32 :=
  (if parms.networkOrder then parms.dataIn else parms.dataIn.reverse).foldl
    (fun value b => (value <<< 8) ||| b.toUInt32) 0

def uintOut (value : UInt32) (datasize : Nat) (networkOrder : Bool) : List UInt8 :=
  let out := (List.range datasize).map fun i =>
    (value >>> UInt32.ofNat (8 * (datasize - 1 - i))).toUInt8
  if networkOrder then out else out.reverse

def sizesOk (parms : DeviceDocmdParms) (low high : Nat) (datasize : Int32) : Bool :=
  low ≤ parms.dataIn.length && parms.dataIn.length ≤ high && parms.datasize == datasize

/-- How a command ends. One that is refused is answered at once, the others after a last look at the
abort flag. -/
inductive Outcome
  | refused (error : ErrorCode)
  | failed (error : ErrorCode)
  | done (dataOut : List UInt8)
  deriving DecidableEq, Repr

def orFail (error : ErrorCode) (dataOut : List UInt8) (result : Bool × σ) : Outcome × σ :=
  (if result.1 then .done dataOut else .failed error, result.2)

def busStatus (bus : Interface σ) (selector : UInt32) (s : σ) : Except ErrorCode UInt32 × σ :=
  if selector = 1 ∨ selector = 2 ∨ selector = 3 then
    match bus.busLines s with
    | (some lines, s) =>
      let level :=
        if selector = 1 then lines.ren else if selector = 2 then lines.srq else lines.ndac
      (.ok level.toUInt32, s)
    | (none, s) => (.error .operationNotSupported, s)
  else if selector = 4 ∨ selector = 5 then (.ok 1, s)
  else if selector = 6 ∨ selector = 7 then (.ok 0, s)
  else if selector = 8 then (.ok (bus.controllerPad s).toUInt32, s)
  else (.error .parameterError, s)

def run (bus : Interface σ) (parms : DeviceDocmdParms) (s : σ) : Command → Outcome × σ
  | .sendCommand =>
    if !sizesOk parms 0 128 1 then (.refused .parameterError, s)
    else orFail .ioError parms.dataIn (bus.sendBusCommand parms.dataIn s)
  | .busStatus =>
    if !sizesOk parms 2 2 2 then (.refused .parameterError, s)
    else match busStatus bus (uintIn parms) s with
      | (.ok value, s) => (.done (uintOut value 2 parms.networkOrder), s)
      | (.error code, s) => (.refused code, s)
  | .atnControl =>
    if !sizesOk parms 2 2 2 then (.refused .parameterError, s)
    else orFail .operationNotSupported parms.dataIn (bus.setAtn (uintIn parms ≠ 0) s)
  | .renControl =>
    if !sizesOk parms 2 2 2 then (.refused .parameterError, s)
    else orFail .ioError parms.dataIn (bus.ren (uintIn parms ≠ 0) s)
  | .passControl =>
    if !sizesOk parms 4 4 4 then (.refused .parameterError, s)
    else (.failed .operationNotSupported, s)
  | .busAddress =>
    if !sizesOk parms 4 4 4 then (.refused .parameterError, s)
    else if 30 < uintIn parms then (.refused .parameterError, s)
    else orFail .ioError parms.dataIn (bus.setControllerPad (uintIn parms).toUInt8 s)
  | .ifcControl =>
    -- any data size will do here
    if parms.dataIn ≠ [] then (.refused .parameterError, s)
    else orFail .ioError [] (bus.ifc s)

/-- A command by its number. -/
def runCode (bus : Interface σ) (parms : DeviceDocmdParms) (s : σ) : Outcome × σ :=
  match Command.ofCode parms.cmd with
  | some command => run bus parms s command
  | none => (.failed .operationNotSupported, s)

def fail (error : ErrorCode) : DeviceDocmdResp := ⟨error.asU32, []⟩

def deviceDocmd (bus : Interface σ) (parms : DeviceDocmdParms) (s : σ) : DeviceDocmdResp × σ :=
  match bus.linkFor parms.lid s with
  | none => (fail .invalidLinkIdentifier, s)
  | some false => (fail .operationNotSupported, s)
  | some true => match bus.acquireAccess parms.lid parms.flags parms.lockTimeoutMs s with
    | (.error e, s) => (fail e, s)
    | (.ok (), s) => match runCode bus parms s with
      | (.refused e, s) => (fail e, s)
      | (.failed e, s) =>
        let (aborted, s) := bus.takeAbort parms.lid s
        (fail (if aborted then .abort else e), s)
      | (.done dataOut, s) =>
        let (aborted, s) := bus.takeAbort parms.lid s
        (if aborted then fail .abort else ⟨ErrorCode.noError.asU32, dataOut⟩, s)

section
variable {bus : Interface σ} {parms : DeviceDocmdParms} {s : σ}

@[simp]
theorem uintOut_length (value : UInt32) (datasize : Nat) (networkOrder : Bool) :
    (uintOut value datasize networkOrder).length = datasize := by
  unfold uintOut
  split_ifs <;> simp

/-- A command that is done gives back its own data, or an integer of the same size as what it was
asked with. -/
def Outcome.Fits (parms : DeviceDocmdParms) : Outcome → Prop
  | .done dataOut => dataOut.length = parms.dataIn.length
  | _ => True

theorem orFail_fits (error : ErrorCode) (result : Bool × σ) {dataOut : List UInt8}
    (h : dataOut.length = parms.dataIn.length) : (orFail error dataOut result).1.Fits parms := by
  unfold orFail
  split_ifs
  · exact h
  · trivial

theorem run_fits (bus : Interface σ) (parms : DeviceDocmdParms) (s : σ) (command : Command) :
    (run bus parms s command).1.Fits parms := by
  cases command with
  | sendCommand | atnControl | renControl =>
    rw [run]
    split_ifs
    · trivial
    · exact orFail_fits _ _ rfl
  | passControl =>
    rw [run]
    split_ifs <;> trivial
  | busAddress =>
    rw [run]
    split_ifs
    · trivial
    · trivial
    · exact orFail_fits _ _ rfl
  | busStatus =>
    rw [run]
    split_ifs with hsizes
    · trivial
    · have hlen : parms.dataIn.length = 2 := by
        simp [sizesOk] at hsizes
        omega
      split
      · exact (uintOut_length _ _ _).trans hlen.symm
      · trivial
  | ifcControl =>
    rw [run]
    split_ifs with hdata
    · trivial
    · exact orFail_fits _ _ (by rw [not_not.mp hdata])

theorem runCode_fits (bus : Interface σ) (parms : DeviceDocmdParms) (s : σ) :
    (runCode bus parms s).1.Fits parms := by
  unfold runCode
  split
  · exact run_fits bus parms s _
  · trivial

/-- An answer never carries more data than its request. -/
theorem deviceDocmd_dataOut_length (bus : Interface σ) (parms : DeviceDocmdParms) (s : σ) :
    (deviceDocmd bus parms s).1.dataOut.length ≤ parms.dataIn.length := by
  have hfits := runCode_fits bus parms
  unfold deviceDocmd
  split
  · exact Nat.zero_le _
  · exact Nat.zero_le _
  · split
    · exact Nat.zero_le _
    · rename_i s' _
      have hrun := hfits s'
      split
      · exact Nat.zero_le _
      · exact Nat.zero_le _
      · rename_i heq
        rw [heq] at hrun
        dsimp only
        split_ifs
        · exact Nat.zero_le _
        · exact hrun.le

/-- What the operations keep, whatever they report. -/
structure Interface.Keeps (P : σ → Prop) (bus : Interface σ) : Prop where
  acquireAccess : ∀ lid flags lockTimeoutMs s, P s → P (bus.acquireAccess lid flags lockTimeoutMs s).2
  takeAbort : ∀ lid s, P s → P (bus.takeAbort lid s).2
  sendBusCommand : ∀ cmds s, P s → P (bus.sendBusCommand cmds s).2
  busLines : ∀ s, P s → P (bus.busLines s).2
  setAtn : ∀ assert s, P s → P (bus.setAtn assert s).2
  ren : ∀ enable s, P s → P (bus.ren enable s).2
  setControllerPad : ∀ pad s, P s → P (bus.setControllerPad pad s).2
  ifc : ∀ s, P s → P (bus.ifc s).2

variable {P : σ → Prop}

theorem busStatus_keeps (h : bus.Keeps P) (selector : UInt32) (hs : P s) :
    P (busStatus bus selector s).2 := by
  unfold busStatus
  split
  · have hlines := h.busLines s hs
    split <;> (rename_i heq; rw [heq] at hlines; exact hlines)
  · -- the other selectors do not look at the lines
    split_ifs <;> exact hs

theorem run_keeps (h : bus.Keeps P) (hs : P s) (command : Command) :
    P (run bus parms s command).2 := by
  cases command with
  | sendCommand =>
    rw [run]
    split_ifs
    · exact hs
    · exact h.sendBusCommand _ s hs
  | busStatus =>
    have hstatus := busStatus_keeps h (uintIn parms) hs
    rw [run]
    split_ifs
    · exact hs
    · split <;> (rename_i heq; rw [heq] at hstatus; exact hstatus)
  | atnControl =>
    rw [run]
    split_ifs
    · exact hs
    · exact h.setAtn _ s hs
  | renControl =>
    rw [run]
    split_ifs
    · exact hs
    · exact h.ren _ s hs
  | passControl =>
    rw [run]
    split_ifs <;> exact hs
  | busAddress =>
    rw [run]
    split_ifs
    · exact hs
    · exact hs
    · exact h.setControllerPad _ s hs
  | ifcControl =>
    rw [run]
    split_ifs
    · exact hs
    · exact h.ifc s hs

theorem runCode_keeps (h : bus.Keeps P) (hs : P s) : P (runCode bus parms s).2 := by
  unfold runCode
  split
  · exact run_keeps h hs _
  · exact hs

/-- So does the whole call. -/
theorem deviceDocmd_keeps (h : bus.Keeps P) (hs : P s) : P (deviceDocmd bus parms s).2 := by
  unfold deviceDocmd
  split
  · exact hs
  · exact hs
  · have haccess := h.acquireAccess parms.lid parms.flags parms.lockTimeoutMs s hs
    split
    · rename_i heq
      rw [heq] at haccess
      exact haccess
    · rename_i s' heq
      rw [heq] at haccess
      have hrun : P (runCode bus parms s').2 := runCode_keeps h haccess
      split <;> (rename_i heq; rw [heq] at hrun)
      · exact hrun
      · exact h.takeAbort _ _ hrun
      · exact h.takeAbort _ _ hrun

end
end Ugpibd.Vxi11.Docmd
