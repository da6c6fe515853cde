import Ugpibd.Backend.AgilentSteps
import Ugpibd.Backend.NiSteps
import Ugpibd.Backend.UsbtmcSteps

/-! The three backends as a front end holds them, called through what all of them have. Only `set_eos`
and `set_timeout` touch the settings a transfer goes by, and a backend carries the proof of it. -/
namespace Ugpibd.Backend
open Library Operation

@[ext]
structure Settings where
  eosChar : UInt8
  eosEnabled : Bool
  timeoutMs : Nat
  deriving DecidableEq, Repr

/-- The settings are these. -/
def HasSettings {C P : Type} (settings : C → Settings) (s : Settings) : Condition C P :=
  fun c _ => settings c = s

theorem stable_hasSettings {C P : Type} {A : P → Prop} {settings : C → Settings} {s : Settings} :
    Stable A (HasSettings settings s) := fun _ _ _ _ => id

/-- The awaited calls a VXI-11 operation makes, with what they return; the lines are the bus status
register. -/
inductive BusRequest : Type → Type
  | write (pad : UInt8) (data : List UInt8) (sendEoi : Bool) : BusRequest Unit
  | read (pad : UInt8) (maxLen : Nat) : BusRequest Received
  | deviceClear (pad : UInt8) : BusRequest Unit
  | trigger (pad : UInt8) : BusRequest Unit
  | ifc : BusRequest Unit
  | ren (enable : Bool) : BusRequest Unit
  | goToRemote (pad : UInt8) : BusRequest Unit
  | goToLocal (pad : UInt8) : BusRequest Unit
  | serialPoll (pad : UInt8) : BusRequest UInt8
  | srqAsserted : BusRequest Bool
  | busLines : BusRequest UInt8
  | sendBusCommand (cmds : List UInt8) : BusRequest Unit
  | setAtn (assert : Bool) : BusRequest Unit
  | setControllerPad (pad : UInt8) : BusRequest Unit
  | sendDataUnaddressed (data : List UInt8) (sendEoi : Bool) : BusRequest Unit
  | readUnaddressed (maxLen : Nat) : BusRequest Received

/-- What a poll meets besides the transfers' answers: how often the chip is looked at before the
deadline, the byte a service request has left, and the one the interrupt endpoint reports. -/
structure PollInputs where
  looks : Nat := 0
  latched : Option UInt8 := none
  notified : Option UInt8 := none
  deriving DecidableEq, Repr

/-- A backend with fields `C` that hands packets `P` to its transport. -/
structure GpibBackend (C P E : Type) where
  settings : C → Settings
  setEos : UInt8 → Bool → C → C
  setTimeout : Nat → C → C
  controllerPad : C → UInt8
  readSliceMs : Option Nat
  request : {α : Type} → PollInputs → BusRequest α → Operation C P E α
  settings_setEos : ∀ eosChar eosEnabled c,
    settings (setEos eosChar eosEnabled c) = { settings c with eosChar, eosEnabled }
  settings_setTimeout : ∀ timeoutMs c, settings (setTimeout timeoutMs c) = { settings c with timeoutMs }
  request_keeps : ∀ {α : Type} (inputs : PollInputs) (r : BusRequest α) (s : Settings),
    Keeps (HasSettings settings s) (request inputs r)

def bsrSrq : UInt8 := 0x04

variable {E α : Type}

namespace NiUsbHs.NiUsbHsBackend

variable {usb : UsbErrors E} {s : Settings}

def settings (c : NiUsbHsBackend) : Settings := ⟨c.eosChar, c.eosEnabled, c.timeoutMs⟩

def request (usb : UsbErrors E) (inputs : PollInputs) : BusRequest α → Op E α
  | .write pad data sendEoi => write usb pad data sendEoi
  | .read pad maxLen => read usb pad maxLen
  | .deviceClear pad => deviceClear usb pad
  | .trigger pad => trigger usb pad
  | .ifc => ifc usb
  | .ren enable => ren usb enable
  | .goToRemote pad => goToRemote usb pad
  | .goToLocal pad => goToLocal usb pad
  | .serialPoll pad => serialPoll usb pad inputs.looks
  | .srqAsserted => do return (← busLines usb) &&& bsrSrq != 0
  | .busLines => busLines usb
  | .sendBusCommand cmds => sendBusCommand usb cmds
  | .setAtn assert => setAtn usb assert
  | .setControllerPad pad => setControllerPad usb pad
  | .sendDataUnaddressed data sendEoi => sendDataUnaddressed usb data sendEoi
  | .readUnaddressed maxLen => readUnaddressed usb maxLen

/-- The rules of operations that name the controller's own address, for one that may be any. -/
theorem keeps_of_own {I : Condition NiUsbHsBackend Packet} {p : Op E α}
    (h : ∀ own, Ends (fun c l => c.myPad = own ∧ I c l) p (fun _ => I) I) : Keeps I p :=
  fun port hport => h port.ctrl.myPad port ⟨rfl, hport⟩

theorem sendCommandNow_settings {cmd : List UInt8} {standbyAfter : Bool} :
    Keeps (HasSettings settings s) (sendCommandNow usb cmd standbyAfter) :=
  sendCommandNow_ends (fun _ _ => id) stable_hasSettings

theorem registerWrite_settings {regs : List NiRegister} :
    Keeps (HasSettings settings s) (registerWrite usb regs) := registerWrite_ends fun _ _ => id

theorem exchange_settings {packet : Packet} :
    Keeps (HasSettings settings s) (exchange usb packet) := exchange_ends fun _ _ => id

theorem busLines_settings : Keeps (HasSettings settings s) (busLines usb) := by
  unfold busLines
  refine (context_ends (registerRead_keeps stable_hasSettings)).bind fun vals => ?_
  cases vals with
  | nil => exact bail_ends fun _ _ => id
  | cons bsr _ => exact pure_keeps

theorem request_keeps (inputs : PollInputs) (r : BusRequest α) (s : Settings) :
    Keeps (HasSettings settings s) (request usb inputs r) := by
  cases r with
  | write pad data sendEoi =>
    exact keeps_of_own fun own => write_ends (fun _ _ => And.left) (fun _ _ => And.right)
      (fun _ _ => And.right) stable_hasSettings
  | read pad maxLen =>
    exact keeps_of_own fun own => read_ends (fun _ _ => And.left) (fun _ _ => And.right)
      (fun _ _ _ => id) stable_hasSettings
  | deviceClear => exact sendCommandNow_settings
  | trigger => exact sendCommandNow_settings
  | ifc =>
    refine update_bind (K := HasSettings settings s) (fun _ _ => id) ?_
    exact exchange_settings.then_pure
  | ren => exact registerWrite_settings
  | goToRemote => exact registerWrite_settings.bind fun _ => sendCommandNow_settings
  | goToLocal => exact sendCommandNow_settings
  | serialPoll pad =>
    exact keeps_of_own fun own => serialPoll_ends (fun _ _ => And.left) (fun _ _ => And.right)
      (fun _ _ => id) stable_hasSettings
  | srqAsserted => exact busLines_settings.then_pure
  | busLines => exact busLines_settings
  | sendBusCommand => exact sendCommandNow_settings
  | setAtn =>
    refine update_bind (K := HasSettings settings s) (fun _ _ => id) ?_
    exact exchange_settings.then_pure
  | setControllerPad =>
    refine bailIf_keeps.bind fun _ => ?_
    exact (context_ends registerWrite_settings).bind fun _ => update_ends fun _ _ => id
  | sendDataUnaddressed =>
    refine fields_bind_of_forall fun _ => ?_
    exact bailIf_keeps.bind fun _ => writeData_keeps stable_hasSettings
  | readUnaddressed => exact readData_keeps stable_hasSettings

/-- Its timeouts are steps of a table, so a long read is made in slices. -/
def backend (usb : UsbErrors E) : GpibBackend NiUsbHsBackend Packet E where
  settings := settings
  setEos eosChar eosEnabled c := { c with eosChar, eosEnabled }
  setTimeout timeoutMs c := { c with timeoutMs }
  controllerPad c := c.myPad
  readSliceMs := some 250
  request := request usb
  settings_setEos _ _ _ := rfl
  settings_setTimeout _ _ := rfl
  request_keeps := request_keeps

end NiUsbHs.NiUsbHsBackend

namespace Agilent.GpibController

variable {usb : UsbErrors E} {s : Settings}

def settings (c : GpibController) : Settings := ⟨c.eosChar, c.eosEnabled, c.timeoutMs⟩

def request (usb : UsbErrors E) : BusRequest α → Op E α
  | .write pad data sendEoi => write usb pad data sendEoi
  | .read pad maxLen => read usb pad maxLen
  | .deviceClear pad => deviceClear usb pad
  | .trigger pad => trigger usb pad
  | .ifc => ifc usb
  | .ren enable => ren usb enable
  | .goToRemote pad => goToRemote usb pad
  | .goToLocal pad => goToLocal usb pad
  | .serialPoll pad => serialPoll usb pad
  | .srqAsserted => do return (← busLines usb) &&& bsrSrq != 0
  | .busLines => busLines usb
  | .sendBusCommand cmds => sendBusCommand usb cmds
  | .setAtn assert => setAtn usb assert
  | .setControllerPad pad => setControllerPad usb pad
  | .sendDataUnaddressed data sendEoi => sendDataUnaddressed usb data sendEoi
  | .readUnaddressed maxLen => readUnaddressed usb maxLen

theorem sendBytes_settings {packet : Packet} :
    Keeps (HasSettings settings s) (sendBytes usb packet) := sendBytes_keeps stable_hasSettings

theorem writeRegisters_settings {regs : List RegisterPairlet} :
    Keeps (HasSettings settings s) (writeRegisters usb regs) := writeRegisters_ends fun _ _ => id

theorem request_keeps (r : BusRequest α) (s : Settings) :
    Keeps (HasSettings settings s) (request usb r) := by
  cases r with
  | write => exact write_keeps stable_hasSettings
  | read => exact read_keeps stable_hasSettings
  | deviceClear => exact sendBytes_settings
  | trigger => exact sendBytes_settings
  | ifc => exact ifc_keeps stable_hasSettings
  | ren => exact writeRegisters_settings
  | goToRemote => exact writeRegisters_settings.bind fun _ => sendBytes_settings
  | goToLocal => exact sendBytes_settings
  | serialPoll => exact serialPoll_keeps stable_hasSettings
  | srqAsserted => exact (busLines_keeps fun _ _ => id).then_pure
  | busLines => exact busLines_keeps fun _ _ => id
  | sendBusCommand => exact sendBytes_settings
  | setAtn => exact context_ends writeRegisters_settings
  | setControllerPad =>
    refine bailIf_keeps.bind fun _ => ?_
    exact (context_ends writeRegisters_settings).bind fun _ => update_ends fun _ _ => id
  | sendDataUnaddressed => exact sendDataUnaddressed_keeps stable_hasSettings
  | readUnaddressed => exact readDataBody_keeps stable_hasSettings

def backend (usb : UsbErrors E) : GpibBackend GpibController Packet E where
  settings := settings
  setEos eosChar eosEnabled c := { c with eosChar, eosEnabled }
  setTimeout timeoutMs c := { c with timeoutMs }
  controllerPad c := c.myPad
  readSliceMs := none
  request _ := request usb
  settings_setEos _ _ _ := rfl
  settings_setTimeout _ _ := rfl
  request_keeps _ := request_keeps

end Agilent.GpibController

namespace Usbtmc.UsbtmcBackend

variable {usb : UsbErrors E} {s : Settings}

def settings (c : UsbtmcBackend) : Settings := ⟨c.eosChar, c.eosEnabled, c.timeoutMs⟩

/-- What the backend leaves to the trait is refused. -/
def cannot (what : String) : Op E α := bail (fixed ("usbtmc cannot " ++ what))

/-- There is no SRQ line; a service request that nobody has polled for comes closest. -/
def srqAsserted (latched : Option UInt8) : Op E Bool := do
  bailIf ((← fields).hasInterruptIn = false)
    (fixed "this interface has no interrupt endpoint to report SRQ")
  pure latched.isSome

/-- Addresses are accepted and ignored. -/
def request (usb : UsbErrors E) (inputs : PollInputs) : BusRequest α → Op E α
  | .write _ data sendEoi => writeMessage usb data sendEoi
  | .read _ maxLen => readMessage usb maxLen
  | .deviceClear _ => clearDevice usb
  | .trigger _ => trigger usb
  | .ifc => settle usb
  | .ren _ => ren usb
  | .goToRemote _ => ren usb
  | .goToLocal _ => goToLocal usb
  | .serialPoll _ => serialPoll usb inputs.latched inputs.notified
  | .srqAsserted => srqAsserted inputs.latched
  | .busLines => cannot "read the GPIB control lines"
  | .sendBusCommand _ => cannot "send raw bus commands"
  | .setAtn _ => cannot "drive ATN directly"
  | .setControllerPad pad => update fun c => { c with myPad := pad }
  | .sendDataUnaddressed data sendEoi => writeMessage usb data sendEoi
  | .readUnaddressed maxLen => readMessage usb maxLen

theorem offPipe_settings : OffPipe (HasSettings settings s) where
  event _ _ _ := id
  tag _ _ _ := id
  pendingIn _ _ _ := id
  pendingOut _ _ _ := id

theorem request_keeps (inputs : PollInputs) (r : BusRequest α) (s : Settings) :
    Keeps (HasSettings settings s) (request usb inputs r) := by
  cases r with
  | write => exact writeMessage_keeps offPipe_settings
  | read => exact readMessage_keeps offPipe_settings
  | deviceClear => exact clearDevice_keeps offPipe_settings.settling
  | trigger => exact trigger_keeps offPipe_settings
  | ifc => exact settle_keeps offPipe_settings.settling
  | ren => exact remoteLocal_keeps
  | goToRemote => exact remoteLocal_keeps
  | goToLocal => exact remoteLocal_keeps
  | serialPoll => exact serialPoll_keeps fun _ _ _ => id
  | srqAsserted =>
    refine fields_bind_of_forall fun _ => ?_
    exact bailIf_keeps.then_pure
  | busLines => exact bail_ends fun _ _ => id
  | sendBusCommand => exact bail_ends fun _ _ => id
  | setAtn => exact bail_ends fun _ _ => id
  | setControllerPad => exact fun _ => id
  | sendDataUnaddressed => exact writeMessage_keeps offPipe_settings
  | readUnaddressed => exact readMessage_keeps offPipe_settings

def backend (usb : UsbErrors E) : GpibBackend UsbtmcBackend Event E where
  settings := settings
  setEos eosChar eosEnabled c := { c with eosChar, eosEnabled }
  setTimeout timeoutMs c := { c with timeoutMs }
  controllerPad c := c.myPad
  readSliceMs := none
  request := request usb
  settings_setEos _ _ _ := rfl
  settings_setTimeout _ _ := rfl
  request_keeps := request_keeps

end Usbtmc.UsbtmcBackend

/-- The adapters the daemon can be started on. -/
inductive BackendKind
  | niUsbHs
  | agilent82357
  | usbtmc
  deriving DecidableEq, Repr

namespace BackendKind

abbrev Ctrl : BackendKind → Type
  | .niUsbHs => NiUsbHs.NiUsbHsBackend
  | .agilent82357 => Agilent.GpibController
  | .usbtmc => Usbtmc.UsbtmcBackend

abbrev Packet : BackendKind → Type
  | .niUsbHs => NiUsbHs.Packet
  | .agilent82357 => Agilent.Packet
  | .usbtmc => Usbtmc.Event

def backend (usb : UsbErrors E) : (kind : BackendKind) → GpibBackend kind.Ctrl kind.Packet E
  | .niUsbHs => NiUsbHs.NiUsbHsBackend.backend usb
  | .agilent82357 => Agilent.GpibController.backend usb
  | .usbtmc => Usbtmc.UsbtmcBackend.backend usb

end BackendKind
end Ugpibd.Backend
