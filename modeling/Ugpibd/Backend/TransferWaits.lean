import Ugpibd.Backend.GpibBackend
import Ugpibd.Backend.NiTimeouts

/-! The limits a data transfer sets on waiting for its completion, and which timeout they come from: the
backend keeps the one it was told last, its transport keeps what it makes of it. The waits of a recovery
are fixed ones and not followed. -/
namespace Ugpibd.Backend
open Library Operation

/-- What a backend's transport keeps of timeouts, what a data transfer makes it keep before anything is
sent, and the limits on the waits a packet brings with it, in milliseconds. -/
structure WaitLimits (C P : Type) where
  Transport : Type
  opened : Nat → Transport
  setTimeout : Nat → Transport → Transport
  prepare : C → Transport → Transport
  limits : C → Transport → P → List (WithTop Nat)

/-- A backend with what its transport keeps. The timeout it was told last is not part of the program. -/
structure Timed (C T : Type) where
  ctrl : C
  transport : T
  lastSet : Option Nat := none

/-- A packet with the limits that were set for it. -/
structure Waited (P : Type) where
  packet : P
  lastSet : Option Nat
  limits : List (WithTop Nat)
  deriving DecidableEq

variable {C P E α : Type}

def BusRequest.isData : BusRequest α → Bool
  | .write .. | .read .. | .sendDataUnaddressed .. | .readUnaddressed .. => true
  | _ => false

def WaitLimits.preparedFor (W : WaitLimits C P) (r : BusRequest α) (c : Timed C W.Transport) :
    W.Transport :=
  if r.isData then W.prepare c.ctrl c.transport else c.transport

def WaitLimits.waited (W : WaitLimits C P) (r : BusRequest α) (c : Timed C W.Transport) (packet : P) :
    Waited P where
  packet := packet
  lastSet := c.lastSet
  limits := if r.isData then W.limits c.ctrl (W.preparedFor r c) packet else []

/-- What the backend makes of a request, without the limits. -/
def asked (backend : GpibBackend C P E) (W : WaitLimits C P) (inputs : PollInputs) (r : BusRequest α)
    (port : Port (Timed C W.Transport) (Waited P) E) : Option (Except Text α) × Port C P E :=
  (backend.request inputs r).exec ⟨port.ctrl.ctrl, port.answers, []⟩

/-- The backend with the limits it sets. -/
def timed (backend : GpibBackend C P E) (W : WaitLimits C P) :
    GpibBackend (Timed C W.Transport) (Waited P) E where
  settings c := backend.settings c.ctrl
  setEos eosChar eosEnabled c := { c with ctrl := backend.setEos eosChar eosEnabled c.ctrl }
  setTimeout timeoutMs c :=
    ⟨backend.setTimeout timeoutMs c.ctrl, W.setTimeout timeoutMs c.transport, some timeoutMs⟩
  controllerPad c := backend.controllerPad c.ctrl
  readSliceMs := backend.readSliceMs
  request inputs r := ExceptT.mk (OptionT.mk fun port =>
    let (result, after) := asked backend W inputs r port
    (result, ⟨⟨after.ctrl, W.preparedFor r port.ctrl, port.ctrl.lastSet⟩, after.answers,
      after.sent.map (W.waited r port.ctrl) ++ port.sent⟩))
  settings_setEos eosChar eosEnabled c := backend.settings_setEos eosChar eosEnabled c.ctrl
  settings_setTimeout timeoutMs c := backend.settings_setTimeout timeoutMs c.ctrl
  request_keeps inputs r s := by
    intro port hport
    refine Interruptible.Leaves.of_state ?_
    exact (backend.request_keeps inputs r s ⟨port.ctrl.ctrl, port.answers, []⟩ hport).state

section
variable {backend : GpibBackend C P E} {W : WaitLimits C P} {inputs : PollInputs}

/-- The limits are such by the timeout set last: `K` is what the transport keeps then. -/
structure WaitLimits.Follows (backend : GpibBackend C P E) (W : WaitLimits C P)
    (K : Option Nat → W.Transport → Prop) (Limit : Nat → P → WithTop Nat → Prop) : Prop where
  setTimeout : ∀ last kept timeoutMs, K last kept → K (some timeoutMs) (W.setTimeout timeoutMs kept)
  prepare : ∀ last kept c, K last kept → K last (W.prepare c kept)
  limits : ∀ c kept packet, K (some (backend.settings c).timeoutMs) kept →
    ∀ w ∈ W.limits c (W.prepare c kept) packet, Limit (backend.settings c).timeoutMs packet w

/-- The backend's timeout is the one set last, and what was sent so far was sent with a timeout in `S`
and within its limits. -/
structure Following (backend : GpibBackend C P E) (W : WaitLimits C P)
    (K : Option Nat → W.Transport → Prop) (Limit : Nat → P → WithTop Nat → Prop)
    (S : Option Nat → Prop) (c : Timed C W.Transport) (sent : List (Waited P)) : Prop where
  lastSet : ∀ timeoutMs, c.lastSet = some timeoutMs →
    (backend.settings c.ctrl).timeoutMs = timeoutMs
  transport : K c.lastSet c.transport
  limits : ∀ e ∈ sent, S e.lastSet ∧
    ∀ timeoutMs, e.lastSet = some timeoutMs → ∀ w ∈ e.limits, Limit timeoutMs e.packet w

variable {K : Option Nat → W.Transport → Prop} {Limit : Nat → P → WithTop Nat → Prop}
  {S : Option Nat → Prop} {c : Timed C W.Transport} {sent : List (Waited P)}

theorem Following.setTimeout (hW : W.Follows backend K Limit)
    (h : Following backend W K Limit S c sent) (timeoutMs : Nat) :
    Following backend W K Limit S ((timed backend W).setTimeout timeoutMs c) sent where
  lastSet := by
    rintro _ ⟨⟩
    exact congrArg Settings.timeoutMs (backend.settings_setTimeout timeoutMs c.ctrl)
  transport := hW.setTimeout c.lastSet c.transport timeoutMs h.transport
  limits := h.limits

theorem Following.setEos (h : Following backend W K Limit S c sent) (eosChar : UInt8)
    (enabled : Bool) :
    Following backend W K Limit S ((timed backend W).setEos eosChar enabled c) sent where
  lastSet timeoutMs hlast :=
    (congrArg Settings.timeoutMs (backend.settings_setEos eosChar enabled c.ctrl)).trans
      (h.lastSet timeoutMs hlast)
  transport := h.transport
  limits := h.limits

theorem WaitLimits.Follows.preparedFor (hW : W.Follows backend K Limit) {last : Option Nat}
    (r : BusRequest α) (h : K last c.transport) : K last (W.preparedFor r c) := by
  unfold WaitLimits.preparedFor
  split
  · exact hW.prepare last c.transport c.ctrl h
  · exact h

theorem WaitLimits.Follows.waited (hW : W.Follows backend K Limit) (r : BusRequest α) {timeoutMs : Nat}
    {packet : P} (hlast : (backend.settings c.ctrl).timeoutMs = timeoutMs)
    (h : K (some timeoutMs) c.transport) :
    ∀ w ∈ (W.waited r c packet).limits, Limit timeoutMs packet w := by
  intro w hw
  unfold WaitLimits.waited WaitLimits.preparedFor at hw
  cases hdata : r.isData with
  | true =>
    simp only [hdata, if_true] at hw
    subst hlast
    exact hW.limits c.ctrl c.transport packet h w hw
  | false =>
    simp only [hdata, Bool.false_eq_true, if_false] at hw
    cases hw

/-- A request sends what it sends within the limits of the timeout set last. -/
theorem request_follows (hW : W.Follows backend K Limit) (r : BusRequest α) :
    Keeps (fun c sent => S c.lastSet ∧ Following backend W K Limit S c sent)
      ((timed backend W).request inputs r) := by
  rintro port ⟨hS, h⟩
  refine Interruptible.Leaves.of_state ⟨hS, ?_⟩
  have hkept : backend.settings (asked backend W inputs r port).2.ctrl =
      backend.settings port.ctrl.ctrl :=
    (backend.request_keeps inputs r _ ⟨port.ctrl.ctrl, port.answers, []⟩ rfl).state
  refine ⟨fun timeoutMs hlast => ?_, hW.preparedFor r h.transport, fun e he => ?_⟩
  · exact (congrArg Settings.timeoutMs hkept).trans (h.lastSet timeoutMs hlast)
  · rcases List.mem_append.mp he with hnew | hold
    · obtain ⟨packet, -, rfl⟩ := List.mem_map.mp hnew
      refine ⟨hS, fun timeoutMs hlast => ?_⟩
      have hlast' : port.ctrl.lastSet = some timeoutMs := hlast
      exact hW.waited r (h.lastSet timeoutMs hlast') (hlast' ▸ h.transport)
    · exact h.limits e hold

/-- The calls of a run. -/
inductive TransferCall
  | setTimeout (timeoutMs : Nat)
  | write (pad : UInt8) (data : List UInt8) (sendEoi : Bool)
  | read (pad : UInt8) (maxLen : Nat)
  | sendDataUnaddressed (data : List UInt8) (sendEoi : Bool)
  | readUnaddressed (maxLen : Nat)
  deriving DecidableEq, Repr

def TransferCall.op (backend : GpibBackend C P E) : TransferCall → Operation C P E Unit
  | .setTimeout timeoutMs => update (backend.setTimeout timeoutMs)
  | .write pad data sendEoi => backend.request {} (.write pad data sendEoi)
  | .read pad maxLen => do let _ ← backend.request {} (.read pad maxLen)
  | .sendDataUnaddressed data sendEoi => backend.request {} (.sendDataUnaddressed data sendEoi)
  | .readUnaddressed maxLen => do let _ ← backend.request {} (.readUnaddressed maxLen)

/-- One call after another; each comes with the answers its transfers get. -/
def transferStep (backend : GpibBackend C P E) (port : Port C P E)
    (call : TransferCall × List (Answer E)) : Option (Port C P E) :=
  some ((call.1.op backend).exec { port with answers := call.2 }).2

/-- The backend as it is opened. -/
def openedPort (W : WaitLimits C P) (ctrl : C) (timeoutMs : Nat) :
    Port (Timed C W.Transport) (Waited P) E :=
  { ctrl := { ctrl, transport := W.opened timeoutMs } }

theorem op_follows (hW : W.Follows backend K Limit) (call : TransferCall) :
    Keeps (Following backend W K Limit fun _ => True) (call.op (timed backend W)) := by
  have hrequest : ∀ {α : Type} (r : BusRequest α),
      Keeps (Following backend W K Limit fun _ => True) ((timed backend W).request {} r) := fun r =>
    (request_follows hW r).weaken (fun _ _ h => ⟨trivial, h⟩) (fun _ _ _ => And.right)
      fun _ _ => And.right
  cases call with
  | setTimeout timeoutMs => exact update_ends fun _ _ h => h.setTimeout hW timeoutMs
  | write => exact hrequest _
  | read => exact (hrequest _).then_pure
  | sendDataUnaddressed => exact hrequest _
  | readUnaddressed => exact (hrequest _).then_pure

/-- Over whole runs. -/
theorem follows_of_reach (hW : W.Follows backend K Limit) {ctrl : C} {openMs : Nat}
    (hopen : K none (W.opened openMs)) {port : Port (Timed C W.Transport) (Waited P) E}
    (h : Reach (transferStep (timed backend W)) anyStep (openedPort W ctrl openMs) port) :
    Following backend W K Limit (fun _ => True) port.ctrl port.sent := by
  refine h.invariant (P := fun port => Following backend W K Limit (fun _ => True) port.ctrl port.sent)
    ⟨nofun, hopen, nofun⟩ ?_
  rintro port ⟨call, answers⟩ after hport - hstep
  cases hstep
  exact (op_follows hW call { port with answers } hport).state

end

namespace NiUsbHs

/-- Every data transfer sets the transport's wait by the backend's timeout. -/
def waitLimits : WaitLimits NiUsbHsBackend Packet where
  Transport := UInt32
  opened timeoutMs := (timeoutCodeFloorWait timeoutMs).2
  setTimeout timeoutMs _ := (timeoutCodeFloorWait timeoutMs).2
  prepare c _ := (timeoutCodeFloorWait c.timeoutMs).2
  limits _ adapterWaitMs _ := [(Ni.bulkTimeout adapterWaitMs : Nat)]

end NiUsbHs

namespace Agilent

/-- Sent with a wait for the write-complete interrupt. -/
def Packet.awaitsWrite : Packet → Bool
  | .gpibCommand _ | .gpibWrite .. => true
  | _ => false

/-- The transport keeps the timeout it was opened with, and waits for the write-complete interrupt by
that. Handing a packet over has no limit; the control transfers have a fixed one, and so does what is
salvaged of a late read. -/
def waitLimits : WaitLimits GpibController Packet where
  Transport := Nat
  opened timeoutMs := timeoutMs
  setTimeout _ kept := kept
  prepare _ kept := kept
  limits c kept
    | .gpibCommand _ | .gpibWrite .. => [⊤, (kept + 1000 : Nat), (1000 : Nat)]
    | .gpibRead .. => ⊤ :: (c.timeoutMs : Nat) :: if c.listenOnly then [(1000 : Nat)] else []
    | .wrRegs _ | .rdRegs _ => [⊤, (c.timeoutMs : Nat)]

end Agilent

namespace Usbtmc

def readResyncWaitMs : Nat := 300

/-- The transport is told every timeout. A request's reply is waited for like the request, and for less
when it has to be looked for. -/
def waitLimits : WaitLimits UsbtmcBackend Event where
  Transport := Nat
  opened timeoutMs := timeoutMs
  setTimeout timeoutMs _ := timeoutMs
  prepare _ kept := kept
  limits c kept
    | .message (.requestDevDepMsgIn ..) _ => [(kept : Nat), (min c.timeoutMs readResyncWaitMs : Nat)]
    | .message .. => [(kept : Nat)]
    | _ => []

end Usbtmc

namespace BackendKind

def waitLimits : (kind : BackendKind) → WaitLimits kind.Ctrl kind.Packet
  | .niUsbHs => NiUsbHs.waitLimits
  | .agilent82357 => Agilent.waitLimits
  | .usbtmc => Usbtmc.waitLimits

/-- The limits a timeout gives. -/
def Gives (timeoutMs : Nat) (w : WithTop Nat) : BackendKind → Prop
  | .niUsbHs => w = (Ni.bulkTimeout (NiUsbHs.timeoutCodeFloorWait timeoutMs).2 : Nat)
  | .agilent82357 => w = ⊤ ∨ w = timeoutMs ∨ w = (1000 : Nat)
  | .usbtmc => w = timeoutMs ∨ w = (min timeoutMs Usbtmc.readResyncWaitMs : Nat)

def awaitsWrite : (kind : BackendKind) → kind.Packet → Bool
  | .niUsbHs, _ | .usbtmc, _ => false
  | .agilent82357, packet => Agilent.Packet.awaitsWrite packet

/-- The limit is one the timeout gives, or the wait for a write-complete interrupt by the timeout the
adapter was opened with. -/
def Limit (kind : BackendKind) (openMs timeoutMs : Nat) (packet : kind.Packet) (w : WithTop Nat) :
    Prop :=
  kind.Gives timeoutMs w ∨ kind.awaitsWrite packet = true ∧ w = (openMs + 1000 : Nat)

/-- What the transport keeps after `last` was set. -/
def Kept (openMs : Nat) : (kind : BackendKind) → Option Nat → kind.waitLimits.Transport → Prop
  | .niUsbHs, _, _ => True
  | .agilent82357, _, kept => kept = openMs
  | .usbtmc, last, kept => kept = last.getD openMs

theorem waitLimits_follow (usb : UsbErrors E) (kind : BackendKind) (openMs : Nat) :
    kind.waitLimits.Follows (kind.backend usb) (kind.Kept openMs) (kind.Limit openMs) := by
  cases kind with
  | niUsbHs =>
    refine ⟨fun _ _ _ => id, fun _ _ _ => id, fun c kept packet _ w hw => .inl ?_⟩
    exact List.mem_singleton.mp hw
  | agilent82357 =>
    refine ⟨fun _ _ _ => id, fun _ _ _ => id, fun c kept packet hkept w hw => ?_⟩
    obtain rfl : kept = openMs := hkept
    cases packet with
    | gpibCommand | gpibWrite =>
      rcases List.mem_cons.mp hw with rfl | hw
      · exact .inl (.inl rfl)
      rcases List.mem_cons.mp hw with rfl | hw
      · exact .inr ⟨rfl, rfl⟩
      · exact .inl (.inr (.inr (List.mem_singleton.mp hw)))
    | gpibRead =>
      rcases List.mem_cons.mp hw with rfl | hw
      · exact .inl (.inl rfl)
      rcases List.mem_cons.mp hw with rfl | hw
      · exact .inl (.inr (.inl rfl))
      split at hw
      · exact .inl (.inr (.inr (List.mem_singleton.mp hw)))
      · cases hw
    | wrRegs | rdRegs =>
      rcases List.mem_cons.mp hw with rfl | hw
      · exact .inl (.inl rfl)
      · exact .inl (.inr (.inl (List.mem_singleton.mp hw)))
  | usbtmc =>
    refine ⟨fun _ _ _ _ => rfl, fun _ _ _ => id, fun c kept packet hkept w hw => .inl ?_⟩
    obtain rfl : kept = c.timeoutMs := hkept
    cases packet with
    | message bulk tag =>
      cases bulk with
      | requestDevDepMsgIn =>
        rcases List.mem_cons.mp hw with rfl | hw
        · exact .inl rfl
        · exact .inr (List.mem_singleton.mp hw)
      | devDepMsgOut | trigger => exact .inl (List.mem_singleton.mp hw)
    | accepted | replied | aborted | stillPending | cleared => cases hw

theorem kept_opened (kind : BackendKind) (openMs : Nat) :
    kind.Kept openMs none (kind.waitLimits.opened openMs) := by
  cases kind with
  | niUsbHs => exact trivial
  | agilent82357 | usbtmc => exact rfl

/-- On two of the backends no wait is longer than the timeout and the margin of a reply. -/
theorem Gives.le {kind : BackendKind} {timeoutMs : Nat} {w : WithTop Nat} (h : kind.Gives timeoutMs w)
    (hkind : kind ≠ .agilent82357) (hpos : 1 ≤ timeoutMs) : w ≤ (timeoutMs + 2000 : Nat) := by
  cases kind with
  | niUsbHs =>
    obtain rfl : w = _ := h
    have hfloor := (NiUsbHs.timeoutCodeFloorWait_floored hpos).le
    exact WithTop.coe_le_coe.mpr (Nat.add_le_add_right hfloor 2000)
  | agilent82357 => exact absurd rfl hkind
  | usbtmc =>
    rcases h with rfl | rfl
    · exact WithTop.coe_le_coe.mpr (Nat.le_add_right timeoutMs 2000)
    · exact WithTop.coe_le_coe.mpr ((Nat.min_le_left timeoutMs _).trans (Nat.le_add_right timeoutMs 2000))

end BackendKind
end Ugpibd.Backend
