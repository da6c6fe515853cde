import Ugpibd.Backend.Chips
import Ugpibd.Library.Runs

/-! Listen-only and device mode: what the backends report against what the chip is in, and which
operations are refused in them. -/
namespace Ugpibd.Backend
open Library Operation

namespace NiUsbHs

/-- The calls that change the mode; the Prologix reset is an `init`. -/
inductive ModeCall
  | init (myPad : UInt8)
  | setListenOnly (enable : Bool)
  | setDeviceMode (address : Option UInt8)
  deriving DecidableEq, Repr

def ModeCall.call : ModeCall → Call
  | .init myPad => .init myPad
  | .setListenOnly enable => .setListenOnly enable
  | .setDeviceMode address => .setDeviceMode address

/-- What is reported is what the chip is in: the controller, or a device at the address. -/
def Agrees (c : NiUsbHsBackend) (chip : Chip) : Prop :=
  c.listenOnly = chip.listenOnly ∧ match c.deviceAddress with
    | none => chip.systemController = true
    | some addr => chip.systemController = false ∧ chip.address = some addr

/-- At most one of the modes is reported on. -/
def OneMode (c : NiUsbHsBackend) : Prop := c.listenOnly = false ∨ c.deviceAddress = none

def IsController (chip : Chip) : Prop := chip.listenOnly = false ∧ chip.systemController = true

def Reports (listenOnly : Bool) (deviceAddress : Option UInt8) (c : NiUsbHsBackend) : Prop :=
  c.listenOnly = listenOnly ∧ c.deviceAddress = deviceAddress

abbrev ModeSession (E : Type) := Session NiUsbHsBackend Packet E ModeCall

def modeStep {E : Type} (usb : UsbErrors E) : ModeSession E → ModeCall × List (Answer E) →
    Option (ModeSession E) := Session.step fun call => call.call.op usb

/-- The controller is initialised only with both modes reported off; a mode is left only with the
other reported off, and entered only when besides the call before it succeeded. -/
def LeavesFirst {E : Type} (s : ModeSession E) (call : ModeCall × List (Answer E)) : Prop :=
  match call.1 with
  | .init _ => Reports false none s.port.ctrl
  | .setListenOnly enable =>
    s.port.ctrl.deviceAddress = none ∧ (enable = true → s.succeeded = true)
  | .setDeviceMode address =>
    s.port.ctrl.listenOnly = false ∧ (address.isSome = true → s.succeeded = true)

variable {E : Type} {usb : UsbErrors E} {c : NiUsbHsBackend} {chip : Chip}

theorem Reports.agrees (h : Reports false none c) (hchip : IsController chip) : Agrees c chip := by
  obtain ⟨hlisten, hdevice⟩ := h
  refine ⟨hlisten.trans hchip.1.symm, ?_⟩
  rw [hdevice]
  exact hchip.2

namespace NiUsbHsBackend

/-- Bringing the controller up does not touch what is reported. -/
theorem init_controller {listenOnly : Bool} {deviceAddress : Option UInt8} {myPad : UInt8} :
    Ends (fun c _ => Reports listenOnly deviceAddress c) (init usb myPad)
      (fun _ c l => Reports listenOnly deviceAddress c ∧ IsController (chipOf l))
      (fun c _ => Reports listenOnly deviceAddress c) := by
  refine (init_ends (J := fun c _ => Reports listenOnly deviceAddress c)
    (K := fun c l => Reports listenOnly deviceAddress c ∧ IsController (chipOf l))
    (fun _ _ h => h) ?_ (fun _ _ h => h) ?_).weaken_fail ?_
  · intro eosMode c l h
    rw [chipOf_cons, Chip.take_setupInit]
    exact ⟨h, rfl, rfl⟩
  · exact stable_of_neutral (fun _ h => h.neutral)
      (Q := fun c chip => Reports listenOnly deviceAddress c ∧ IsController chip)
  · rintro c l (h | ⟨h, -⟩) <;> exact h

theorem setListenOnly_enters : Ends
    (fun c l => c.deviceAddress = none ∧ (chipOf l).systemController = true)
    (setListenOnly usb true) (fun _ c l => c.deviceAddress = none ∧ Agrees c (chipOf l))
    (fun c _ => c.deviceAddress = none) := by
  unfold setListenOnly
  refine update_bind (K := fun c l => c.deviceAddress = none ∧ (chipOf l).systemController = true)
    (fun _ _ h => h) ?_
  rw [if_pos rfl]
  refine fields_bind_of_forall fun c => ?_
  have hwritten : Ends (fun c l => c.deviceAddress = none ∧ (chipOf l).systemController = true)
      (registerWrite usb [⟨subdevTnt4882, regAdmr, admrDisableSad ||| hrLon⟩,
        ⟨subdevTnt4882, regAuxmr, auxra ||| binaryEos c.eosMode⟩, ⟨subdevTnt4882, regAuxmr, auxFh⟩])
      (fun _ c l => c.deviceAddress = none ∧ (chipOf l).listenOnly = true ∧
        (chipOf l).systemController = true) (fun c _ => c.deviceAddress = none) :=
    (registerWrite_ends fun c l h => ⟨h.1, rfl, h.2⟩).weaken_fail fun _ _ => And.left
  refine (context_ends hwritten).bind fun _ => update_ends ?_
  rintro c l ⟨hdevice, hlisten, hcontroller⟩
  refine ⟨hdevice, hlisten.symm, ?_⟩
  rw [hdevice]
  exact hcontroller

theorem setListenOnly_leaves : Ends (fun c _ => c.deviceAddress = none) (setListenOnly usb false)
    (fun _ c l => Reports false none c ∧ IsController (chipOf l))
    (fun c _ => c.deviceAddress = none) := by
  unfold setListenOnly
  refine update_bind (K := fun c _ => c.deviceAddress = none) (fun _ _ h => h) ?_
  rw [if_neg Bool.false_ne_true]
  refine update_bind (K := fun c _ => Reports false none c) (fun _ _ h => ⟨rfl, h⟩) ?_
  refine fields_bind_of_forall fun c => context_ends ?_
  exact init_controller.weaken_fail fun _ _ => And.right

theorem setDeviceMode_enters {addr : UInt8} : Ends
    (fun c l => c.listenOnly = false ∧ (chipOf l).listenOnly = false)
    (setDeviceMode usb (some addr)) (fun _ c l => c.listenOnly = false ∧ Agrees c (chipOf l))
    (fun c _ => c.listenOnly = false) := by
  unfold setDeviceMode
  refine update_bind (K := fun c l => c.listenOnly = false ∧ (chipOf l).listenOnly = false)
    (fun _ _ h => h) ?_
  refine (bailIf_ends.weaken_fail fun _ _ => And.left).bind fun _ => ?_
  have hwritten : Ends
      (fun c l => ¬addr > 30 ∧ c.listenOnly = false ∧ (chipOf l).listenOnly = false)
      (registerWrite usb [⟨subdevTnt4882, regAdr, addr &&& 0x1f⟩, ⟨subdevTnt4882, regAuxmr, auxCren⟩,
        ⟨subdevTnt4882, regAuxmr, auxCifc⟩, ⟨subdevTnt4882, regAuxmr, auxDsc⟩,
        ⟨subdevTnt4882, regCmdr, cmdrClrsc⟩])
      (fun _ c l => c.listenOnly = false ∧ chipOf l = ⟨false, false, some addr⟩)
      (fun c _ => c.listenOnly = false) := by
    refine (registerWrite_ends ?_).weaken_fail fun _ _ => And.left
    rintro c l ⟨hrange, hlisten, hchip⟩
    refine ⟨hlisten, ?_⟩
    simp only [chipOf_cons, Chip.take, List.foldl_cons, Chip.write_adr]
    rw [and_0x1f_of_le (UInt8.not_lt.mp hrange)]
    exact congrArg (Chip.mk · false (some addr)) hchip
  refine (context_ends hwritten).bind fun _ => update_ends ?_
  rintro c l ⟨hlisten, hchip⟩
  rw [hchip]
  exact ⟨rfl, rfl, rfl, rfl⟩

theorem setDeviceMode_leaves : Ends (fun c _ => c.listenOnly = false) (setDeviceMode usb none)
    (fun _ c l => Reports false none c ∧ IsController (chipOf l)) (fun c _ => c.listenOnly = false) := by
  unfold setDeviceMode
  refine update_bind (K := fun c _ => c.listenOnly = false) (fun _ _ h => h) ?_
  refine update_bind (K := fun c _ => Reports false none c) (fun _ _ h => ⟨h, rfl⟩) ?_
  refine fields_bind_of_forall fun c => context_ends ?_
  exact init_controller.weaken_fail fun _ _ => And.left

end NiUsbHsBackend

/-- What holds between the calls: one mode at most, and after a success what the chip is in. -/
structure Honest (s : ModeSession E) : Prop where
  oneMode : OneMode s.port.ctrl
  agrees : s.succeeded = true → Agrees s.port.ctrl (chipOf s.port.sent)

theorem Agrees.controller (h : Agrees c chip) (hdevice : c.deviceAddress = none) :
    chip.systemController = true := by
  rw [Agrees, hdevice] at h
  exact h.2

theorem modeStep_honest {s s' : ModeSession E} {call : ModeCall × List (Answer E)} (h : Honest s)
    (hg : LeavesFirst s call) (hstep : modeStep usb s call = some s') : Honest s' := by
  obtain ⟨call, answers⟩ := call
  cases call with
  | init myPad =>
    rcases Session.step_cases hstep NiUsbHsBackend.init_controller hg with
      ⟨-, -, hreports, hchip⟩ | ⟨hfailed, -, hreports⟩
    · exact ⟨.inl hreports.1, fun _ => hreports.agrees hchip⟩
    · exact ⟨.inl hreports.1, by simp [hfailed]⟩
  | setListenOnly enable =>
    obtain ⟨hdevice, hsettled⟩ := hg
    cases enable with
    | true =>
      have hcontroller := (h.agrees (hsettled rfl)).controller hdevice
      rcases Session.step_cases hstep NiUsbHsBackend.setListenOnly_enters ⟨hdevice, hcontroller⟩ with
        ⟨-, -, hdevice, hagrees⟩ | ⟨hfailed, -, hdevice⟩
      · exact ⟨.inr hdevice, fun _ => hagrees⟩
      · exact ⟨.inr hdevice, by simp [hfailed]⟩
    | false =>
      rcases Session.step_cases hstep NiUsbHsBackend.setListenOnly_leaves hdevice with
        ⟨-, -, hreports, hchip⟩ | ⟨hfailed, -, hdevice⟩
      · exact ⟨.inl hreports.1, fun _ => hreports.agrees hchip⟩
      · exact ⟨.inr hdevice, by simp [hfailed]⟩
  | setDeviceMode address =>
    obtain ⟨hlisten, hsettled⟩ := hg
    cases address with
    | some addr =>
      have hchip := (h.agrees (hsettled rfl)).1.symm.trans hlisten
      rcases Session.step_cases hstep NiUsbHsBackend.setDeviceMode_enters ⟨hlisten, hchip⟩ with
        ⟨-, -, hlisten, hagrees⟩ | ⟨hfailed, -, hlisten⟩
      · exact ⟨.inl hlisten, fun _ => hagrees⟩
      · exact ⟨.inl hlisten, by simp [hfailed]⟩
    | none =>
      rcases Session.step_cases hstep NiUsbHsBackend.setDeviceMode_leaves hlisten with
        ⟨-, -, hreports, hchip⟩ | ⟨hfailed, -, hlisten⟩
      · exact ⟨.inl hreports.1, fun _ => hreports.agrees hchip⟩
      · exact ⟨.inl hlisten, by simp [hfailed]⟩

theorem honest_of_reach {timeoutMs : Nat} {hsPlus : Bool} {s : ModeSession E}
    (h : Reach (modeStep usb) LeavesFirst { port := newPort timeoutMs hsPlus } s) : Honest s :=
  h.invariant (P := Honest) ⟨.inl rfl, nofun⟩ fun _ _ _ => modeStep_honest

/-- The operations of a controller or a talker. -/
def Call.actsOnBus : Call → Bool
  | .write .. | .sendDataUnaddressed .. | .deviceClear _ | .trigger _ | .goToRemote _ | .goToLocal _
  | .localLockout | .serialPoll .. | .sendBusCommand _ => true
  | _ => false

variable (usb) in
/-- Whatever the adapter would answer, the call fails, and nothing is sent or changed. -/
def Refused (call : Call) (port : NiPort E) : Prop :=
  ∀ answers, ∃ text, call.exec usb answers port = (some (.error text), { port with answers })

/-- A write is refused in either mode, a send without addressing while listening only. -/
def Call.isRefusedBy (c : NiUsbHsBackend) : Call → Bool
  | .write .. => true
  | .sendDataUnaddressed .. => c.listenOnly
  | _ => false

theorem refused_of_isRefusedBy {call : Call} {port : NiPort E}
    (hmode : port.ctrl.listenOnly = true ∨ port.ctrl.deviceAddress.isSome = true)
    (h : call.isRefusedBy port.ctrl = true) : Refused usb call port := by
  intro answers
  obtain ⟨⟨⟨myPad, listenOnly, deviceAddress, readAddressing⟩, _⟩, _⟩ := port
  cases call with
  | write pad data sendEoi =>
    cases listenOnly with
    | true => exact ⟨_, rfl⟩
    | false =>
      cases deviceAddress with
      | some _ => exact ⟨_, rfl⟩
      | none => simp at hmode
  | sendDataUnaddressed data sendEoi =>
    obtain rfl : listenOnly = true := h
    exact ⟨_, rfl⟩
  | _ => cases h

/-- Every other one goes on until the adapter has to answer. -/
theorem not_refused {call : Call} {port : NiPort E} (hacts : call.actsOnBus = true)
    (h : call.isRefusedBy port.ctrl = false) : ¬Refused usb call port := by
  intro hrefused
  obtain ⟨text, hexec⟩ := hrefused []
  have hwaits : (call.exec usb [] port).1 = none := by
    obtain ⟨⟨⟨myPad, listenOnly, deviceAddress, readAddressing⟩, _⟩, _⟩ := port
    cases call with
    | sendDataUnaddressed data sendEoi =>
      obtain rfl : listenOnly = false := h
      cases data <;> rfl
    | write => cases h
    | deviceClear => rfl
    | trigger => rfl
    | goToRemote => rfl
    | goToLocal => rfl
    | localLockout => rfl
    | serialPoll => rfl
    | sendBusCommand => rfl
    | _ => cases hacts
  rw [hexec] at hwaits
  cases hwaits

end NiUsbHs

namespace Agilent

inductive ModeCall
  | init (myPad : UInt8)
  | setListenOnly (enable : Bool)
  deriving DecidableEq, Repr

def ModeCall.call : ModeCall → Call
  | .init myPad => .init myPad
  | .setListenOnly enable => .setListenOnly enable

def Agrees (c : GpibController) (chip : Chip) : Prop := c.listenOnly = chip.listenOnly

abbrev ModeSession (E : Type) := Session GpibController Packet E ModeCall

def modeStep {E : Type} (usb : UsbErrors E) : ModeSession E → ModeCall × List (Answer E) →
    Option (ModeSession E) := Session.step fun call => call.call.op usb

/-- The controller is initialised only with listen-only reported off. -/
def LeavesFirst {E : Type} (s : ModeSession E) (call : ModeCall × List (Answer E)) : Prop :=
  match call.1 with
  | .init _ => s.port.ctrl.listenOnly = false
  | .setListenOnly _ => True

variable {E : Type} {usb : UsbErrors E}

namespace GpibController

theorem init_agrees {myPad : UInt8} : Ends (fun c _ => c.listenOnly = false) (init usb myPad)
    (fun _ c l => Agrees c (chipOf l)) (fun _ _ => True) := by
  refine (init_ends (J := fun c _ => c.listenOnly = false)
    (K := fun c l => c.listenOnly = false ∧ (chipOf l).listenOnly = false) (fun _ _ h => h)
    (fun _ _ h => h) ?_ (fun _ _ _ h => h) ?_).weaken (fun _ _ => id) ?_ fun _ _ _ => trivial
  · intro c l h
    rw [chipOf_cons, Chip.take_initBatch2]
    exact ⟨h, rfl⟩
  · exact stable_of_neutral (fun _ h => h.neutral)
      (Q := fun c chip => c.listenOnly = false ∧ chip.listenOnly = false)
  · rintro - c l ⟨hlisten, hchip⟩
    exact hlisten.trans hchip.symm

theorem setListenOnly_agrees {enable : Bool} : Ends (fun _ _ => True) (setListenOnly usb enable)
    (fun _ c l => Agrees c (chipOf l)) (fun _ _ => True) := by
  have hwritten : ∀ {listenOnly : Bool} {regs : List RegisterPairlet},
      (∀ chip : Chip, (chip.take (.wrRegs regs)).listenOnly = listenOnly) →
      Ends (fun _ _ => True) (writeRegisters usb regs)
        (fun _ _ l => (chipOf l).listenOnly = listenOnly) (fun _ _ => True) := by
    intro listenOnly regs hregs
    exact (writeRegisters_ends fun _ l _ => hregs (chipOf l)).weaken_fail fun _ _ _ => trivial
  unfold setListenOnly
  cases enable with
  | true =>
    rw [if_pos rfl]
    refine (announceListener_keeps fun _ _ => id).bind fun _ => ?_
    exact (hwritten fun _ => rfl).bind fun _ => update_ends fun _ _ => Eq.symm
  | false =>
    rw [if_neg Bool.false_ne_true]
    exact (hwritten fun _ => rfl).bind fun _ => update_ends fun _ _ => Eq.symm

end GpibController

theorem agrees_of_reach {timeoutMs : Nat} {s : ModeSession E}
    (h : Reach (modeStep usb) LeavesFirst { port := newPort timeoutMs } s) (hs : s.succeeded = true) :
    Agrees s.port.ctrl (chipOf s.port.sent) := by
  refine h.invariant (P := fun s => s.succeeded = true → Agrees s.port.ctrl (chipOf s.port.sent))
    nofun ?_ hs
  rintro s ⟨call, answers⟩ s' - hg hstep hs'
  cases call with
  | init myPad =>
    rcases Session.step_cases hstep GpibController.init_agrees hg with ⟨-, -, hagrees⟩ | ⟨hfailed, -, -⟩
    · exact hagrees
    · rw [hfailed] at hs'
      cases hs'
  | setListenOnly enable =>
    rcases Session.step_cases hstep GpibController.setListenOnly_agrees trivial with
      ⟨-, -, hagrees⟩ | ⟨hfailed, -, -⟩
    · exact hagrees
    · rw [hfailed] at hs'
      cases hs'

/-- The operations of a controller or a talker. -/
def Call.actsOnBus : Call → Bool
  | .write .. | .sendDataUnaddressed .. | .deviceClear _ | .trigger _ | .goToRemote _ | .goToLocal _
  | .localLockout | .serialPoll _ | .sendBusCommand _ => true
  | _ => false

variable (usb) in
/-- Whatever the adapter would answer, the call fails, and nothing is sent or changed. -/
def Refused (call : Call) (port : AgilentPort E) : Prop :=
  ∀ answers, ∃ text, call.exec usb answers port = (some (.error text), { port with answers })

def Call.isRefused : Call → Bool
  | .write .. | .sendDataUnaddressed .. => true
  | _ => false

theorem refused_of_isRefused {call : Call} {port : AgilentPort E}
    (hmode : port.ctrl.listenOnly = true) (h : call.isRefused = true) : Refused usb call port := by
  intro answers
  obtain ⟨⟨⟨listenOnly, _⟩, _⟩, _⟩ := port
  obtain rfl : listenOnly = true := hmode
  cases call with
  | write => exact ⟨_, rfl⟩
  | sendDataUnaddressed => exact ⟨_, rfl⟩
  | _ => cases h

theorem not_refused {call : Call} {port : AgilentPort E} (hacts : call.actsOnBus = true)
    (h : call.isRefused = false) : ¬Refused usb call port := by
  intro hrefused
  obtain ⟨text, hexec⟩ := hrefused []
  have hwaits : (call.exec usb [] port).1 = none := by
    cases call with
    | write => cases h
    | sendDataUnaddressed => cases h
    | deviceClear => rfl
    | trigger => rfl
    | goToRemote => rfl
    | goToLocal => rfl
    | localLockout => rfl
    | serialPoll => rfl
    | sendBusCommand => rfl
    | _ => cases hacts
  rw [hexec] at hwaits
  cases hwaits

end Agilent

/-- Sessions with either adapter in which a mode is left before the controller is initialised and before
another is entered. -/
theorem reported_modes_agree {E : Type} {usb : UsbErrors E} {timeoutMs : Nat} {hsPlus : Bool}
    {s : NiUsbHs.ModeSession E} {t : Agilent.ModeSession E}
    (hs : Reach (NiUsbHs.modeStep usb) NiUsbHs.LeavesFirst
      { port := NiUsbHs.newPort timeoutMs hsPlus } s)
    (ht : Reach (Agilent.modeStep usb) Agilent.LeavesFirst { port := Agilent.newPort timeoutMs } t) :
    NiUsbHs.OneMode s.port.ctrl ∧
      (s.succeeded = true → NiUsbHs.Agrees s.port.ctrl (NiUsbHs.chipOf s.port.sent)) ∧
      (t.succeeded = true → Agilent.Agrees t.port.ctrl (Agilent.chipOf t.port.sent)) :=
  have hhonest := NiUsbHs.honest_of_reach hs
  ⟨hhonest.oneMode, hhonest.agrees, Agilent.agrees_of_reach ht⟩

theorem reported_modes_agree_listening : ∃ (s : NiUsbHs.ModeSession Unit) (t : Agilent.ModeSession Unit),
    s.port.ctrl.listenOnly = true ∧ NiUsbHs.Agrees s.port.ctrl (NiUsbHs.chipOf s.port.sent) ∧
      t.port.ctrl.listenOnly = true ∧ Agilent.Agrees t.port.ctrl (Agilent.chipOf t.port.sent) := by
  have hs : Reach (NiUsbHs.modeStep oneError) NiUsbHs.LeavesFirst
      { port := NiUsbHs.newPort 3000 false } _ :=
    (Reach.refl.tail (a := (NiUsbHs.ModeCall.init 0, NiUsbHs.acceptsInit)) ⟨rfl, rfl⟩ rfl).tail
      (a := (NiUsbHs.ModeCall.setListenOnly true, NiUsbHs.acceptsRegisters 3)) ⟨rfl, fun _ => rfl⟩ rfl
  have hinit : Reach (Agilent.modeStep oneError) Agilent.LeavesFirst
      { port := Agilent.newPort 3000 } _ :=
    Reach.refl.tail (a := (Agilent.ModeCall.init 0, Agilent.acceptsInit)) rfl rfl
  have ht := hinit.tail (a := (Agilent.ModeCall.setListenOnly true, Agilent.acceptsListenOnly))
    trivial rfl
  obtain ⟨-, hni, hagilent⟩ := reported_modes_agree hs ht
  exact ⟨_, _, rfl, hni rfl, rfl, hagilent rfl⟩

/-- A reset in listen-only mode leaves the flag on and the chip out of the mode, on either adapter; and
an NI adapter that is a device can be told to listen only, and then reports both. -/
theorem reported_modes_disagree :
    (∃ s : NiUsbHs.ModeSession Unit,
      Reach (NiUsbHs.modeStep oneError) anyStep { port := NiUsbHs.newPort 3000 false } s ∧
        s.succeeded = true ∧ ¬NiUsbHs.Agrees s.port.ctrl (NiUsbHs.chipOf s.port.sent)) ∧
    (∃ s : NiUsbHs.ModeSession Unit,
      Reach (NiUsbHs.modeStep oneError) anyStep { port := NiUsbHs.newPort 3000 false } s ∧
        s.succeeded = true ∧ ¬NiUsbHs.OneMode s.port.ctrl) ∧
    ∃ t : Agilent.ModeSession Unit,
      Reach (Agilent.modeStep oneError) anyStep { port := Agilent.newPort 3000 } t ∧
        t.succeeded = true ∧ ¬Agilent.Agrees t.port.ctrl (Agilent.chipOf t.port.sent) := by
  refine ⟨?_, ?_, ?_⟩
  · obtain ⟨s, hreach, htest⟩ := exists_reach_of_exec (NiUsbHs.modeStep oneError)
      { port := NiUsbHs.newPort 3000 false }
      (fun s => s.succeeded && s.port.ctrl.listenOnly && !(NiUsbHs.chipOf s.port.sent).listenOnly)
      [(.init 0, NiUsbHs.acceptsInit), (.setListenOnly true, NiUsbHs.acceptsRegisters 3),
        (.init 0, NiUsbHs.acceptsInit)] (by decide +kernel)
    simp only [Bool.and_eq_true, Bool.not_eq_true'] at htest
    obtain ⟨⟨hs, hlisten⟩, hchip⟩ := htest
    refine ⟨s, hreach, hs, fun hagrees => ?_⟩
    exact Bool.false_ne_true (hchip.symm.trans (hagrees.1.symm.trans hlisten))
  · obtain ⟨s, hreach, htest⟩ := exists_reach_of_exec (NiUsbHs.modeStep oneError)
      { port := NiUsbHs.newPort 3000 false }
      (fun s => s.succeeded && s.port.ctrl.listenOnly && s.port.ctrl.deviceAddress == some 5)
      [(.init 0, NiUsbHs.acceptsInit), (.setDeviceMode (some 5), NiUsbHs.acceptsRegisters 5),
        (.setListenOnly true, NiUsbHs.acceptsRegisters 3)] (by decide +kernel)
    simp only [Bool.and_eq_true, beq_iff_eq] at htest
    obtain ⟨⟨hs, hlisten⟩, hdevice⟩ := htest
    refine ⟨s, hreach, hs, ?_⟩
    simp [NiUsbHs.OneMode, hlisten, hdevice]
  · obtain ⟨t, hreach, htest⟩ := exists_reach_of_exec (Agilent.modeStep oneError)
      { port := Agilent.newPort 3000 }
      (fun t => t.succeeded && t.port.ctrl.listenOnly && !(Agilent.chipOf t.port.sent).listenOnly)
      [(.init 0, Agilent.acceptsInit), (.setListenOnly true, Agilent.acceptsListenOnly),
        (.init 0, Agilent.acceptsInit)] (by decide +kernel)
    simp only [Bool.and_eq_true, Bool.not_eq_true'] at htest
    obtain ⟨⟨ht, hlisten⟩, hchip⟩ := htest
    refine ⟨t, hreach, ht, fun hagrees => ?_⟩
    exact Bool.false_ne_true (hchip.symm.trans (hagrees.symm.trans hlisten))

/-- Of the operations of a controller or a talker, a mode refuses the write, and listen-only the send
without addressing besides; no others. -/
theorem refused_in_mode_iff {E : Type} {usb : UsbErrors E} {port : NiUsbHs.NiPort E}
    {call : NiUsbHs.Call} {port' : Agilent.AgilentPort E} {call' : Agilent.Call}
    (hmode : port.ctrl.listenOnly = true ∨ port.ctrl.deviceAddress.isSome = true)
    (hacts : call.actsOnBus = true) (hmode' : port'.ctrl.listenOnly = true)
    (hacts' : call'.actsOnBus = true) :
    (NiUsbHs.Refused usb call port ↔ call.isRefusedBy port.ctrl = true) ∧
      (Agilent.Refused usb call' port' ↔ call'.isRefused = true) := by
  refine ⟨⟨fun h => ?_, NiUsbHs.refused_of_isRefusedBy hmode⟩,
    ⟨fun h => ?_, Agilent.refused_of_isRefused hmode'⟩⟩
  · by_contra hnot
    exact NiUsbHs.not_refused hacts (Bool.eq_false_of_not_eq_true hnot) h
  · by_contra hnot
    exact Agilent.not_refused hacts' (Bool.eq_false_of_not_eq_true hnot) h

theorem refused_in_mode_iff_write :
    NiUsbHs.Refused oneError (.write 5 [0x2a] true)
        { ctrl := { timeoutMs := 3000, deviceAddress := some 7 } } ∧
      Agilent.Refused oneError (.write 5 [0x2a] true) { ctrl := { listenOnly := true } } := by
  have hiff : (NiUsbHs.Refused oneError (.write 5 [0x2a] true)
          { ctrl := { timeoutMs := 3000, deviceAddress := some 7 } } ↔ _) ∧
        (Agilent.Refused oneError (.write 5 [0x2a] true) { ctrl := { listenOnly := true } } ↔ _) :=
    refused_in_mode_iff (.inr rfl) rfl rfl rfl
  exact ⟨hiff.1.mpr rfl, hiff.2.mpr rfl⟩

/-- A device clear in listen-only mode is not refused: it succeeds, with its command bytes sent. -/
theorem deviceClear_sent_in_mode :
    (∃ s : Session NiUsbHs.NiUsbHsBackend NiUsbHs.Packet Unit NiUsbHs.Call,
      Reach (Session.step (NiUsbHs.Call.op oneError)) anyStep { port := NiUsbHs.newPort 3000 false } s ∧
        s.port.ctrl.listenOnly = true ∧ s.succeeded = true ∧ s.done.head? = some (.deviceClear 5) ∧
        .command [NiUsbHs.gpibUnl, NiUsbHs.listenAddress 5, NiUsbHs.gpibSdc] 0xfc ∈ s.port.sent) ∧
    ∃ t : Session Agilent.GpibController Agilent.Packet Unit Agilent.Call,
      Reach (Session.step (Agilent.Call.op oneError)) anyStep { port := Agilent.newPort 3000 } t ∧
        t.port.ctrl.listenOnly = true ∧ t.succeeded = true ∧ t.done.head? = some (.deviceClear 5) ∧
        .gpibCommand [Agilent.gpibUnl, Agilent.listenAddress 5, Agilent.gpibSdc] ∈ t.port.sent := by
  constructor
  · obtain ⟨s, hreach, htest⟩ := exists_reach_of_exec (Session.step (NiUsbHs.Call.op oneError))
      { port := NiUsbHs.newPort 3000 false }
      (fun s => s.port.ctrl.listenOnly && s.succeeded && decide (s.done.head? = some (.deviceClear 5)) &&
        decide (.command [NiUsbHs.gpibUnl, NiUsbHs.listenAddress 5, NiUsbHs.gpibSdc] 0xfc ∈ s.port.sent))
      [(.init 0, NiUsbHs.acceptsInit), (.setListenOnly true, NiUsbHs.acceptsRegisters 3),
        (.deviceClear 5, NiUsbHs.acceptsAddressing)] (by decide +kernel)
    simp only [Bool.and_eq_true, decide_eq_true_eq, and_assoc] at htest
    exact ⟨s, hreach, htest⟩
  · obtain ⟨t, hreach, htest⟩ := exists_reach_of_exec (Session.step (Agilent.Call.op oneError))
      { port := Agilent.newPort 3000 }
      (fun t => t.port.ctrl.listenOnly && t.succeeded && decide (t.done.head? = some (.deviceClear 5)) &&
        decide (.gpibCommand [Agilent.gpibUnl, Agilent.listenAddress 5, Agilent.gpibSdc] ∈ t.port.sent))
      [(.init 0, Agilent.acceptsInit), (.setListenOnly true, Agilent.acceptsListenOnly),
        (.deviceClear 5, Agilent.acceptsBytes)] (by decide +kernel)
    simp only [Bool.and_eq_true, decide_eq_true_eq, and_assoc] at htest
    exact ⟨t, hreach, htest⟩

end Ugpibd.Backend
