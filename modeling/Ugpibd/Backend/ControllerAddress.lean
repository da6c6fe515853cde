import Ugpibd.Backend.Chips
import Ugpibd.Library.Runs

/-! The controller's own address: the one that was set, the one that is reported, the one in the chip's
register, and the one the addressing of a transfer names. -/
namespace Ugpibd.Backend
open Library Operation

namespace NiUsbHs

/-- The address a call sets when it succeeds. -/
def Call.sets : Call → Option UInt8
  | .init myPad => some myPad
  | .setControllerPad pad => some pad
  | _ => none

/-- The address set last by a call that succeeded. -/
def addressSet (done : List Call) : Option UInt8 := done.findSome? Call.sets

/-- The command bytes a transfer may send for a controller at `own`. -/
def Call.Names (own : UInt8) (bytes : List UInt8) : Call → Prop
  | .write pad _ _ => bytes = [gpibUnl, talkAddress own, listenAddress pad]
  | .read pad _ => bytes = [gpibUnl, listenAddress own] ∨
      bytes = [gpibUnl, listenAddress own, talkAddress pad]
  | .serialPoll pad _ => bytes = [gpibUnl, gpibSpe, talkAddress pad, listenAddress own] ∨
      bytes = [gpibSpd, gpibUnt]
  | _ => True

def Call.NamesIn (own : UInt8) (call : Call) : Packet → Prop
  | .command bytes _ => call.Names own bytes
  | _ => True

abbrev CallSession (E : Type) := Session NiUsbHsBackend Packet E Call

/-- Every address that is set is in range, and setting it works; one out of range may be tried, and is
refused. The modes, which have addresses of their own, are not entered. -/
def SetsAddress {E : Type} (usb : UsbErrors E) (s : CallSession E) (call : Call × List (Answer E)) :
    Prop :=
  match call.1 with
  | .init myPad => myPad ≤ 30 ∧ (call.1.exec usb call.2 s.port).1 = some (.ok ())
  | .setControllerPad pad => pad ≤ 30 → (call.1.exec usb call.2 s.port).1 = some (.ok ())
  | .setListenOnly _ | .setDeviceMode _ => False
  | _ => True

/-- The address is reported and is in the chip. -/
def At (own : UInt8) (c : NiUsbHsBackend) (sent : List Packet) : Prop :=
  c.myPad = own ∧ (chipOf sent).address = some own

variable {E : Type} {usb : UsbErrors E} {own pad : UInt8} {cmd : List UInt8}

theorem stable_at {A : Packet → Prop} (hA : ∀ packet, A packet → packet.Neutral) :
    Stable A (At own) :=
  stable_of_neutral hA (Q := fun c chip => c.myPad = own ∧ chip.address = some own)

theorem at_send {packet : Packet} (hpacket : packet.Neutral) {c : NiUsbHsBackend} {l : List Packet}
    (h : At own c l) : At own c (packet :: l) := by
  refine ⟨h.1, ?_⟩
  rw [chipOf_cons, hpacket]
  exact h.2

theorem exchange_at {packet : Packet} (hpacket : packet.Neutral) :
    Keeps (At own) (exchange usb packet) := exchange_ends fun _ _ => at_send hpacket

theorem sendCommandNow_at {standbyAfter : Bool} :
    Keeps (At own) (sendCommandNow usb cmd standbyAfter) :=
  sendCommandNow_ends (fun _ _ h => h) (stable_at fun _ h => h.neutral)

namespace NiUsbHsBackend

theorem ren_at {enable : Bool} : Keeps (At own) (ren usb enable) :=
  registerWrite_ends fun _ _ => at_send neutral_ren

theorem init_at {myPad : UInt8} {I : Condition NiUsbHsBackend Packet} (hrange : myPad ≤ 30) :
    Ends I (init usb myPad) (fun _ => At myPad) (fun _ _ => True) := by
  refine (init_ends (J := fun c _ => c.myPad = myPad) (K := At myPad) (fun _ _ _ => rfl) ?_
    (fun _ _ h => h) (stable_at fun _ h => h.neutral)).weaken_fail fun _ _ _ => trivial
  intro eosMode c l h
  refine ⟨h, ?_⟩
  rw [chipOf_cons, Chip.take_setupInit, and_0x1f_of_le hrange]

theorem setControllerPad_at {I : Condition NiUsbHsBackend Packet} :
    Ends I (setControllerPad usb pad) (fun _ => At pad) (fun c l => pad ≤ 30 ∨ I c l) := by
  unfold setControllerPad
  refine (bailIf_ends.weaken (fun _ _ => id) (fun _ _ _ h => UInt8.not_lt.mp h.1)
    fun _ _ => Or.inr).bind fun _ => ?_
  have hregister : Ends (fun _ _ => pad ≤ 30)
      (registerWrite usb [⟨subdevTnt4882, regAdr, pad &&& 0x1f⟩])
      (fun _ _ l => (chipOf l).address = some pad) (fun c l => pad ≤ 30 ∨ I c l) := by
    refine (registerWrite_ends (J := fun _ l => pad ≤ 30 ∧ (chipOf l).address = some pad) ?_).weaken
      (fun _ _ => id) (fun _ _ _ => And.right) fun _ _ h => .inl h.1
    intro c l hrange
    refine ⟨hrange, ?_⟩
    simp only [chipOf_cons, Chip.take, List.foldl_cons, List.foldl_nil, Chip.write_adr]
    rw [and_0x1f_of_le hrange]
  exact (context_ends hregister).bind fun _ => update_ends fun _ _ h => ⟨rfl, h⟩

theorem write_at {data : List UInt8} {sendEoi : Bool} : Keeps (At own) (write usb pad data sendEoi) :=
  write_ends (I := At own) (fun _ _ h => h.1) (fun _ _ h => h) (fun _ _ h => h)
    (stable_at fun _ h => h.neutral)

theorem read_at {maxLen : Nat} : Keeps (At own) (read usb pad maxLen) :=
  read_ends (I := At own) (fun _ _ h => h.1) (fun _ _ h => h) (fun _ _ _ h => h)
    (stable_at fun _ h => h.neutral)

theorem serialPoll_at {looks : Nat} : Keeps (At own) (serialPoll usb pad looks) :=
  serialPoll_ends (I := At own) (fun _ _ h => h.1) (fun _ _ h => h) (fun _ _ h => h)
    (stable_at fun _ h => h.neutral)

theorem busLines_at : Keeps (At own) (busLines usb) := by
  unfold busLines
  refine (context_ends (registerRead_keeps (stable_at fun _ h => h.neutral))).bind fun vals => ?_
  cases vals with
  | nil => exact bail_ends fun _ _ => id
  | cons _ _ => exact pure_keeps

end NiUsbHsBackend

open NiUsbHsBackend in
/-- What is neither an address set nor a mode changed leaves the address where it is. -/
theorem Call.op_at {call : Call} (hsets : call.sets = none)
    (hmode : ∀ enable, call ≠ .setListenOnly enable) (hmode' : ∀ address, call ≠ .setDeviceMode address) :
    Keeps (At own) (call.op usb) := by
  cases call with
  | init => cases hsets
  | setControllerPad => cases hsets
  | setListenOnly enable => exact absurd rfl (hmode enable)
  | setDeviceMode address => exact absurd rfl (hmode' address)
  | write => exact write_at
  | read => exact read_at.then_pure
  | serialPoll => exact serialPoll_at.then_pure
  | deviceClear => exact sendCommandNow_at
  | trigger => exact sendCommandNow_at
  | goToLocal => exact sendCommandNow_at
  | localLockout => exact sendCommandNow_at
  | sendBusCommand => exact sendCommandNow_at
  | goToRemote => exact ren_at.bind fun _ => sendCommandNow_at
  | ren => exact ren_at
  | ifc =>
    refine update_bind (K := At own) (fun _ _ h => h) ?_
    exact (exchange_at fun _ => rfl).then_pure
  | setAtn assert =>
    refine update_bind (K := At own) (fun _ _ h => h) ?_
    refine (exchange_at ?_).then_pure
    cases assert <;> exact fun _ => rfl
  | busLines => exact busLines_at.then_pure
  | sendDataUnaddressed =>
    refine fields_bind_of_forall fun _ => bailIf_keeps.bind fun _ => ?_
    exact writeData_keeps (stable_at fun _ h => h.neutral)
  | readUnaddressed =>
    exact (readData_keeps (stable_at fun _ h => h.neutral)).then_pure
  | setEos => exact fun _ h => h
  | setTimeout => exact fun _ h => h

/-- The controller is at the address that was set, if one was. -/
def Placed : Option UInt8 → Condition NiUsbHsBackend Packet
  | none => fun _ _ => True
  | some own => At own

theorem step_placed {s s' : CallSession E} {call : Call × List (Answer E)}
    (h : s.port.Meets (Placed (addressSet s.done))) (hg : SetsAddress usb s call)
    (hstep : Session.step (Call.op usb) s call = some s') :
    s'.port.Meets (Placed (addressSet s'.done)) := by
  obtain ⟨call, answers⟩ := call
  -- a call that sets nothing, whether it succeeds or not
  have hother : call.sets = none → (∀ enable, call ≠ .setListenOnly enable) →
      (∀ address, call ≠ .setDeviceMode address) → s'.port.Meets (Placed (addressSet s'.done)) := by
    intro hsets hmode hmode'
    have hkeeps : Keeps (Placed (addressSet s.done)) (call.op usb) := by
      cases addressSet s.done with
      | none => exact keeps_true
      | some own => exact Call.op_at hsets hmode hmode'
    have hskip : addressSet (call :: s.done) = addressSet s.done := by
      simp [addressSet, hsets]
    rcases Session.step_cases hstep hkeeps h with ⟨-, hdone, hs'⟩ | ⟨-, hdone, hs'⟩
    · rw [hdone, hskip]
      exact hs'
    · rw [hdone]
      exact hs'
  cases call with
  | init myPad =>
    obtain ⟨hrange, hok⟩ := hg
    have hsucceeded := Session.succeeded_of_step hstep hok
    rcases Session.step_cases hstep (NiUsbHsBackend.init_at hrange) h with
      ⟨-, hdone, hs'⟩ | ⟨hfailed, -⟩
    · rw [hdone]
      exact hs'
    · rw [hsucceeded] at hfailed
      cases hfailed
  | setControllerPad pad =>
    rcases Session.step_cases hstep NiUsbHsBackend.setControllerPad_at h with
      ⟨-, hdone, hs'⟩ | ⟨hfailed, hdone, hrange | hs'⟩
    · rw [hdone]
      exact hs'
    · rw [Session.succeeded_of_step hstep (hg hrange)] at hfailed
      cases hfailed
    · rw [hdone]
      exact hs'
  | setListenOnly => cases hg
  | setDeviceMode => cases hg
  | _ => exact hother rfl nofun nofun

theorem placed_of_reach {timeoutMs : Nat} {hsPlus : Bool} {s : CallSession E}
    (h : Reach (Session.step (Call.op usb)) (SetsAddress usb) { port := newPort timeoutMs hsPlus } s) :
    s.port.Meets (Placed (addressSet s.done)) :=
  h.invariant (P := fun s => s.port.Meets (Placed (addressSet s.done))) trivial fun _ _ _ => step_placed

/-- A short command is one transfer. -/
theorem Commanding.bytes_eq {bytes : List UInt8} {timeoutCode : UInt8}
    (h : Commanding cmd (.command bytes timeoutCode)) (hshort : cmd.length ≤ maxCommandLen) :
    bytes = cmd := by
  cases h with
  | command _ hchunk => exact hchunk.whole hshort

namespace NiUsbHsBackend

theorem Writing.names {data : List UInt8} {sendEoi : Bool} {packet : Packet}
    (h : Writing own pad packet) : (Call.write pad data sendEoi).NamesIn own packet := by
  unfold Call.NamesIn
  split
  · cases h with
    | command h => exact h.bytes_eq (by simp [maxCommandLen])
    | data h => cases h
  · trivial

theorem Reading.names {maxLen : Nat} {packet : Packet} (h : Reading own pad packet) :
    (Call.read pad maxLen).NamesIn own packet := by
  unfold Call.NamesIn
  split
  · cases h with
    | command talker htalker h =>
      obtain rfl | rfl := htalker
      · exact .inl (h.bytes_eq (by simp [ReadAddressing.bytes, maxCommandLen]))
      · exact .inr (h.bytes_eq (by simp [ReadAddressing.bytes, maxCommandLen]))
    | data h => cases h
  · trivial

theorem Polling.names {looks : Nat} {packet : Packet} (h : Polling own pad packet) :
    (Call.serialPoll pad looks).NamesIn own packet := by
  unfold Call.NamesIn
  split
  · cases h with
    | enable h => exact .inl (h.bytes_eq (by simp [maxCommandLen]))
    | look h => cases h
    | disable h => exact .inr (h.bytes_eq (by simp [maxCommandLen]))
  · trivial

end NiUsbHsBackend

open NiUsbHsBackend in
/-- What a transfer sends names the address the backend has for itself. -/
theorem Call.namesIn_of_mem_sentBy {call : Call} {port : NiPort E} :
    ∀ packet ∈ sentBy (call.op usb) port, call.NamesIn port.ctrl.myPad packet := by
  have hown : ∀ (c : NiUsbHsBackend) (l : List Packet), c = port.ctrl ∧ l = port.sent →
      c.myPad = port.ctrl.myPad := by
    rintro c l ⟨rfl, -⟩
    rfl
  cases call with
  | write =>
    refine forall_sentBy (write_ends hown ?_ ?_
      (stable_sentOnly fun _ h => h.names))
    · rintro c l ⟨-, rfl⟩
      exact sentOnly_start c
    · rintro c l ⟨-, rfl⟩
      exact sentOnly_start _
  | read =>
    refine forall_sentBy ((read_ends hown ?_ (fun _ _ _ h => h)
      (stable_sentOnly fun _ h => h.names)).then_pure)
    rintro c l ⟨-, rfl⟩
    exact sentOnly_start c
  | serialPoll =>
    refine forall_sentBy ((serialPoll_ends hown ?_ (fun _ _ h => h)
      (stable_sentOnly fun _ h => h.names)).then_pure)
    rintro c l ⟨-, rfl⟩
    exact sentOnly_start _
  | _ =>
    intro packet _
    unfold Call.NamesIn
    split <;> trivial

end NiUsbHs

namespace Agilent

def Call.sets : Call → Option UInt8
  | .init myPad => some myPad
  | .setControllerPad pad => some pad
  | _ => none

def addressSet (done : List Call) : Option UInt8 := done.findSome? Call.sets

def Call.Names (own : UInt8) (cmd : List UInt8) : Call → Prop
  | .write pad _ _ => cmd = [gpibUnl, talkAddress own, listenAddress pad]
  | .read pad _ => cmd = [gpibUnl, listenAddress own, talkAddress pad]
  | .serialPoll pad => cmd = [gpibUnl, gpibSpe, talkAddress pad, listenAddress own] ∨
      cmd = [gpibSpd, gpibUnt]
  | _ => True

def Call.NamesIn (own : UInt8) (call : Call) : Packet → Prop
  | .gpibCommand cmd => call.Names own cmd
  | _ => True

abbrev CallSession (E : Type) := Session GpibController Packet E Call

/-- The addressing always names 0, so that is the address to set. Whether setting it works does not
matter then. -/
def SetsZero {E : Type} (_ : CallSession E) (call : Call × List (Answer E)) : Prop :=
  match call.1 with
  | .init myPad => myPad = 0
  | .setControllerPad pad => pad ≤ 30 → pad = 0
  | .setListenOnly _ => False
  | _ => True

/-- The controller has address 0, and the chip too once it was set. -/
def AtZero (set : Bool) (c : GpibController) (sent : List Packet) : Prop :=
  c.myPad = 0 ∧ (set = true → (chipOf sent).address = some 0)

variable {E : Type} {usb : UsbErrors E} {set : Bool} {pad : UInt8}

theorem stable_atZero {A : Packet → Prop} (hA : ∀ packet, A packet → packet.Neutral) :
    Stable A (AtZero set) :=
  stable_of_neutral hA (Q := fun c chip => c.myPad = 0 ∧ (set = true → chip.address = some 0))

theorem AtZero.send {packet : Packet} {c : GpibController} {l : List Packet} (h : AtZero set c l)
    (hpacket : packet.Neutral) : AtZero set c (packet :: l) := by
  refine ⟨h.1, ?_⟩
  rw [chipOf_cons, hpacket]
  exact h.2

theorem AtZero.of_set {c : GpibController} {l : List Packet} (h : AtZero true c l) : AtZero set c l :=
  ⟨h.1, fun _ => h.2 rfl⟩

namespace GpibController

theorem writeRegisters_atZero {regs : List RegisterPairlet} (hregs : (Packet.wrRegs regs).Neutral) :
    Keeps (AtZero set) (writeRegisters usb regs) := writeRegisters_ends fun _ _ h => h.send hregs

theorem sendCommandBytes_atZero {cmd : List UInt8} : Keeps (AtZero set) (sendCommandBytes usb cmd) :=
  sendBytes_keeps (stable_atZero fun _ h => h.neutral fun _ => rfl)

theorem init_atZero : Ends (AtZero set) (init usb 0) (fun _ => AtZero true) (AtZero set) := by
  refine (init_ends (J := AtZero set) (K := AtZero true) (fun _ _ h => ⟨rfl, h.2⟩)
    (fun _ _ h => h.send neutral_initBatch1) ?_ (fun _ _ _ h => h)
    (stable_atZero fun _ h => h.neutral)).weaken_fail ?_
  · intro c l h
    refine ⟨h.1, fun _ => ?_⟩
    rw [chipOf_cons, Chip.take_initBatch2]
    rfl
  · rintro c l (h | h)
    · exact h
    · exact h.of_set

theorem setControllerPad_atZero (hzero : pad ≤ 30 → pad = 0) :
    Ends (AtZero set) (setControllerPad usb pad) (fun _ c l => pad = 0 ∧ AtZero true c l)
      (AtZero set) := by
  unfold setControllerPad
  refine bailIf_ends.bind fun _ => ?_
  have hregister : Ends (fun c l => ¬pad > 30 ∧ AtZero set c l)
      (writeRegisters usb [⟨tmsAdr, pad &&& addressMask⟩])
      (fun _ _ l => pad = 0 ∧ (chipOf l).address = some 0) (AtZero set) := by
    refine (writeRegisters_ends (J := fun c l => pad = 0 ∧ AtZero true c l) ?_).weaken
      (fun _ _ => id) (fun _ _ _ h => ⟨h.1, h.2.2 rfl⟩) fun _ _ h => h.2.of_set
    rintro c l ⟨hrange, h⟩
    obtain rfl : pad = 0 := hzero (UInt8.not_lt.mp hrange)
    exact ⟨rfl, h.1, fun _ => rfl⟩
  refine (context_ends hregister).bind fun _ => update_ends ?_
  rintro c l ⟨rfl, hchip⟩
  exact ⟨rfl, rfl, fun _ => hchip⟩

end GpibController

open GpibController in
theorem Call.op_atZero {call : Call} (hsets : call.sets = none)
    (hmode : ∀ enable, call ≠ .setListenOnly enable) : Keeps (AtZero set) (call.op usb) := by
  cases call with
  | init => cases hsets
  | setControllerPad => cases hsets
  | setListenOnly enable => exact absurd rfl (hmode enable)
  | write => exact write_keeps (stable_atZero fun _ h => h.neutral)
  | read =>
    exact (read_keeps (stable_atZero fun _ h => h.neutral)).then_pure
  | serialPoll =>
    exact (serialPoll_keeps (stable_atZero fun _ h => h.neutral)).then_pure
  | deviceClear => exact sendCommandBytes_atZero
  | trigger => exact sendCommandBytes_atZero
  | goToLocal => exact sendCommandBytes_atZero
  | localLockout => exact sendCommandBytes_atZero
  | sendBusCommand => exact sendCommandBytes_atZero
  | goToRemote =>
    exact (writeRegisters_atZero fun _ => rfl).bind fun _ => sendCommandBytes_atZero
  | ren enable =>
    refine writeRegisters_atZero ?_
    cases enable <;> exact fun _ => rfl
  | ifc => exact ifc_keeps (stable_atZero fun _ h => h.neutral)
  | setAtn assert =>
    refine context_ends (writeRegisters_atZero ?_)
    cases assert <;> exact fun _ => rfl
  | busLines =>
    exact (busLines_keeps fun _ _ h => h).then_pure
  | sendDataUnaddressed =>
    exact sendDataUnaddressed_keeps (stable_atZero fun _ h => h.neutral fun _ => rfl)
  | readUnaddressed =>
    exact (readDataBody_keeps (stable_atZero fun _ h => h.neutral)).then_pure
  | setEos => exact fun _ h => h
  | setTimeout => exact fun _ h => h

/-- Only 0 was ever set, and there the controller is. -/
structure Placed (s : CallSession E) : Prop where
  zero : ∀ own, addressSet s.done = some own → own = 0
  placed : s.port.Meets (AtZero (addressSet s.done).isSome)

/-- Nothing more was set. -/
theorem Placed.of_addressSet_eq {s s' : CallSession E} (h : Placed s)
    (hset : addressSet s'.done = addressSet s.done)
    (hplaced : s'.port.Meets (AtZero (addressSet s.done).isSome)) : Placed s' where
  zero := by
    rw [hset]
    exact h.zero
  placed := by
    rw [hset]
    exact hplaced

/-- Zero was set. -/
theorem Placed.of_addressSet_zero {s' : CallSession E} (hset : addressSet s'.done = some 0)
    (hplaced : s'.port.Meets (AtZero true)) : Placed s' where
  zero := by
    rw [hset]
    rintro _ ⟨⟩
    rfl
  placed := by
    rw [hset]
    exact hplaced

theorem step_placed {s s' : CallSession E} {call : Call × List (Answer E)} (h : Placed s)
    (hg : SetsZero s call) (hstep : Session.step (Call.op usb) s call = some s') : Placed s' := by
  obtain ⟨call, answers⟩ := call
  have hother : call.sets = none → (∀ enable, call ≠ .setListenOnly enable) → Placed s' := by
    intro hsets hmode
    have hskip : addressSet (call :: s.done) = addressSet s.done := by simp [addressSet, hsets]
    rcases Session.step_cases hstep (Call.op_atZero hsets hmode) h.placed with
      ⟨-, hdone, hs'⟩ | ⟨-, hdone, hs'⟩
    · exact h.of_addressSet_eq ((congrArg addressSet hdone).trans hskip) hs'
    · exact h.of_addressSet_eq (congrArg addressSet hdone) hs'
  cases call with
  | init myPad =>
    obtain rfl : myPad = 0 := hg
    rcases Session.step_cases hstep GpibController.init_atZero h.placed with
      ⟨-, hdone, hs'⟩ | ⟨-, hdone, hs'⟩
    · exact .of_addressSet_zero (congrArg addressSet hdone) hs'
    · exact h.of_addressSet_eq (congrArg addressSet hdone) hs'
  | setControllerPad pad =>
    rcases Session.step_cases hstep (GpibController.setControllerPad_atZero hg) h.placed with
      ⟨-, hdone, rfl, hs'⟩ | ⟨-, hdone, hs'⟩
    · exact .of_addressSet_zero (congrArg addressSet hdone) hs'
    · exact h.of_addressSet_eq (congrArg addressSet hdone) hs'
  | setListenOnly => cases hg
  | _ => exact hother rfl nofun

theorem placed_of_reach {timeoutMs : Nat} {s : CallSession E}
    (h : Reach (Session.step (Call.op usb)) SetsZero { port := newPort timeoutMs } s) : Placed s :=
  h.invariant (P := Placed) ⟨nofun, rfl, nofun⟩ fun _ _ _ => step_placed

theorem Sending.names {call : Call} {cmd : List UInt8} {packet : Packet} {own : UInt8}
    (h : Sending (.gpibCommand cmd) packet) (hcmd : call.Names own cmd) : call.NamesIn own packet := by
  cases h with
  | packet => exact hcmd
  | clearing h => cases h <;> trivial

theorem ReadingData.names {call : Call} {packet : Packet} {own : UInt8} (h : ReadingData packet) :
    call.NamesIn own packet := by
  cases h with
  | standby => trivial
  | request => trivial
  | clearing h => cases h <;> trivial

open GpibController in
/-- Whatever address was set, what a transfer sends names 0. -/
theorem Call.namesIn_of_mem_sentBy {call : Call} {port : AgilentPort E} :
    ∀ packet ∈ sentBy (call.op usb) port, call.NamesIn 0 packet := by
  have hstart : ∀ (c : GpibController) (l : List Packet), c = port.ctrl ∧ l = port.sent →
      SentOnly port.sent (call.NamesIn 0) c l := by
    rintro c l ⟨-, rfl⟩
    exact sentOnly_start c
  cases call with
  | write =>
    refine forall_sentBy ((write_keeps (stable_sentOnly fun packet h => ?_)).weaken_pre hstart)
    cases h with
    | address h => exact h.names rfl
    | data h =>
      cases h with
      | packet => trivial
      | clearing h => cases h <;> trivial
  | read =>
    refine forall_sentBy (((read_keeps (stable_sentOnly fun packet h => ?_)).weaken_pre hstart).bind
      fun _ => pure_keeps)
    cases h with
    | address h => exact h.names rfl
    | data h => exact h.names
  | serialPoll =>
    refine forall_sentBy (((serialPoll_keeps (stable_sentOnly fun packet h => ?_)).weaken_pre
      hstart).then_pure)
    cases h with
    | enable h => exact h.names (.inl rfl)
    | byte h => exact h.names
    | disable h => exact h.names (.inr rfl)
  | _ =>
    intro packet _
    unfold Call.NamesIn
    split <;> trivial

end Agilent

/-- After any run of either backend in which an address was set, it is the one reported, the one in the
chip, and the one every addressing of a transfer names. -/
theorem addressing_names_address_set {E : Type} {usb : UsbErrors E} {timeoutMs : Nat} {hsPlus : Bool}
    {s : NiUsbHs.CallSession E} {t : Agilent.CallSession E} {own own' : UInt8}
    (hs : Reach (Session.step (NiUsbHs.Call.op usb)) (NiUsbHs.SetsAddress usb)
      { port := NiUsbHs.newPort timeoutMs hsPlus } s)
    (ht : Reach (Session.step (Agilent.Call.op usb)) Agilent.SetsZero
      { port := Agilent.newPort timeoutMs } t)
    (hown : NiUsbHs.addressSet s.done = some own) (hown' : Agilent.addressSet t.done = some own') :
    (s.port.ctrl.myPad = own ∧ (NiUsbHs.chipOf s.port.sent).address = some own ∧
      ∀ (call : NiUsbHs.Call) answers, ∀ packet ∈ sentBy (call.op usb) { s.port with answers },
        call.NamesIn own packet) ∧
    (t.port.ctrl.myPad = own' ∧ (Agilent.chipOf t.port.sent).address = some own' ∧
      ∀ (call : Agilent.Call) answers, ∀ packet ∈ sentBy (call.op usb) { t.port with answers },
        call.NamesIn own' packet) := by
  have hplaced := NiUsbHs.placed_of_reach hs
  rw [hown] at hplaced
  obtain ⟨hpad, hchip⟩ : NiUsbHs.At own s.port.ctrl s.port.sent := hplaced
  obtain ⟨hzero, hpad', hchip'⟩ := Agilent.placed_of_reach ht
  rw [hown'] at hchip'
  obtain rfl := hzero own' hown'
  refine ⟨⟨hpad, hchip, fun call answers => ?_⟩, hpad', hchip' rfl, fun call answers => ?_⟩
  · rw [← hpad]
    have hnames : ∀ port : NiUsbHs.NiPort E, ∀ packet ∈ sentBy (call.op usb) port,
        call.NamesIn port.ctrl.myPad packet := fun _ => NiUsbHs.Call.namesIn_of_mem_sentBy
    exact hnames { s.port with answers }
  · exact Agilent.Call.namesIn_of_mem_sentBy

theorem addressing_names_address_set_after_init :
    ∃ (s : NiUsbHs.CallSession Unit) (t : Agilent.CallSession Unit),
      s.port.ctrl.myPad = 21 ∧ t.port.ctrl.myPad = 0 ∧
      (∀ packet ∈ sentBy (NiUsbHs.Call.op oneError (.write 5 [0x2a] true)) s.port,
        (NiUsbHs.Call.write 5 [0x2a] true).NamesIn 21 packet) ∧
      ∀ packet ∈ sentBy (Agilent.Call.op oneError (.write 5 [0x2a] true)) t.port,
        (Agilent.Call.write 5 [0x2a] true).NamesIn 0 packet := by
  have hs : Reach (Session.step (NiUsbHs.Call.op oneError)) (NiUsbHs.SetsAddress oneError)
      { port := NiUsbHs.newPort 3000 false } _ :=
    Reach.refl.tail (a := (NiUsbHs.Call.init 21, NiUsbHs.acceptsInit)) ⟨by decide, rfl⟩ rfl
  have ht : Reach (Session.step (Agilent.Call.op oneError)) Agilent.SetsZero
      { port := Agilent.newPort 3000 } _ :=
    Reach.refl.tail (a := (Agilent.Call.init 0, Agilent.acceptsInit)) rfl rfl
  obtain ⟨⟨hpad, -, hsent⟩, hpad', -, hsent'⟩ := addressing_names_address_set hs ht rfl rfl
  exact ⟨_, _, hpad, hpad', hsent _ [], hsent' _ []⟩

/-- The 82357 is brought up at 5, reports it and has it in the chip, and a write still names 0. An NI
adapter at 0 whose next initialisation fails reports the address that was not set. -/
theorem addressing_names_other_address :
    (∃ t : Agilent.CallSession Unit,
      Reach (Session.step (Agilent.Call.op oneError)) anyStep { port := Agilent.newPort 3000 } t ∧
        Agilent.addressSet t.done = some 5 ∧
        sentBy (Agilent.Call.op oneError (.write 3 [0x2a] true)) t.port =
          [.gpibCommand [Agilent.gpibUnl, Agilent.talkAddress 0, Agilent.listenAddress 3]]) ∧
    ∃ s : NiUsbHs.CallSession Unit,
      Reach (Session.step (NiUsbHs.Call.op oneError)) anyStep
        { port := NiUsbHs.newPort 3000 false } s ∧
        NiUsbHs.addressSet s.done = some 0 ∧ s.port.ctrl.myPad = 5 := by
  constructor
  · obtain ⟨t, hreach, htest⟩ := exists_reach_of_exec (Session.step (Agilent.Call.op oneError))
      { port := Agilent.newPort 3000 }
      (fun t => decide (Agilent.addressSet t.done = some 5) &&
        decide (sentBy (Agilent.Call.op oneError (.write 3 [0x2a] true)) t.port =
          [.gpibCommand [Agilent.gpibUnl, Agilent.talkAddress 0, Agilent.listenAddress 3]]))
      [(.init 5, Agilent.acceptsInit)] (by decide +kernel)
    simp only [Bool.and_eq_true, decide_eq_true_eq] at htest
    exact ⟨t, hreach, htest⟩
  · obtain ⟨s, hreach, htest⟩ := exists_reach_of_exec (Session.step (NiUsbHs.Call.op oneError))
      { port := NiUsbHs.newPort 3000 false }
      (fun s => decide (NiUsbHs.addressSet s.done = some 0) && decide (s.port.ctrl.myPad = 5))
      [(.init 0, NiUsbHs.acceptsInit), (.init 5, [.late, .late, .late, .late, .late, .late])]
      (by decide +kernel)
    simp only [Bool.and_eq_true, decide_eq_true_eq] at htest
    exact ⟨s, hreach, htest⟩

end Ugpibd.Backend
