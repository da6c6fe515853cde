import Ugpibd.Backend.NiSteps
import Ugpibd.Library.Runs

/-! A read on the NI adapter leaves out its addressing when an earlier read has set the bus up that way.
What it then rests on is that nothing sent since has moved the bus. -/
namespace Ugpibd.Backend.NiUsbHs
open Library Operation

/-- The write of REN's command is the one register write that leaves addressing and ATN alone for
certain. -/
def NiRegister.setsRen (r : NiRegister) : Bool :=
  r.device == subdevTnt4882 && r.address == regAuxmr && (r.value == auxSren || r.value == auxCren)

/-- Can the packet change who is addressed, or ATN? -/
def Packet.movesBus : Packet → Bool
  | .takeControl | .goToStandby | .interfaceClear | .command .. => true
  | .registerWrite regs => !regs.all NiRegister.setsRen
  | .dataWrite .. | .dataRead .. | .registerRead _ | .rearmSrq _ => false

/-- The latest packets that can have moved the bus are the addressing and the standby after it. -/
def SetUp (addressing : ReadAddressing) (sent : List Packet) : Prop :=
  ∃ timeoutCode older, sent.filter Packet.movesBus =
    .goToStandby :: .command addressing.bytes timeoutCode :: .takeControl :: older

/-- What the backend remembers of the bus is so. -/
def Addressed (c : NiUsbHsBackend) (sent : List Packet) : Prop :=
  ∀ addressing, c.readAddressing = some addressing → SetUp addressing sent

def Forgotten (c : NiUsbHsBackend) (_ : List Packet) : Prop := c.readAddressing = none

variable {E : Type} {usb : UsbErrors E} {c : NiUsbHsBackend} {l : List Packet}

theorem Forgotten.addressed (h : Forgotten c l) : Addressed c l := by
  intro addressing haddressing
  rw [h] at haddressing
  cases haddressing

theorem stable_forgotten {A : Packet → Prop} : Stable A Forgotten := fun _ _ _ _ h => h

theorem SetUp.send {addressing : ReadAddressing} {packet : Packet} (h : SetUp addressing l)
    (hpacket : packet.movesBus = false) : SetUp addressing (packet :: l) := by
  obtain ⟨timeoutCode, older, hset⟩ := h
  exact ⟨timeoutCode, older, by rw [List.filter_cons, hpacket]; exact hset⟩

theorem Addressed.send {packet : Packet} (h : Addressed c l) (hpacket : packet.movesBus = false) :
    Addressed c (packet :: l) := fun addressing haddressing => (h addressing haddressing).send hpacket

theorem stable_addressed : Stable Transferring Addressed := by
  intro packet c l hpacket h
  refine h.send ?_
  cases hpacket <;> rfl

/-- What forgets the addressing can send anything. -/
theorem keeps_addressed {α : Type} {p : Op E α}
    (h : Ends Addressed p (fun _ => Forgotten) Forgotten) : Keeps Addressed p :=
  h.weaken (fun _ _ => id) (fun _ _ _ => Forgotten.addressed) fun _ _ => Forgotten.addressed

theorem sendCommandNow_forgets {I : Condition NiUsbHsBackend Packet} {cmd : List UInt8}
    {standbyAfter : Bool} :
    Ends I (sendCommandNow usb cmd standbyAfter) (fun _ => Forgotten) Forgotten :=
  sendCommandNow_ends (fun _ _ _ => rfl) stable_forgotten

theorem forget_forgets {I J : Condition NiUsbHsBackend Packet} :
    Ends I (update .forget : Op E Unit) (fun _ => Forgotten) J := by
  refine update_ends fun c l _ => ?_
  rfl

theorem exchange_forgotten {packet : Packet} : Keeps Forgotten (exchange usb packet) :=
  exchange_ends fun _ _ h => h

theorem registerWrite_forgotten {regs : List NiRegister} :
    Keeps Forgotten (registerWrite usb regs) := registerWrite_ends fun _ _ h => h

theorem ReadAddressing.bytes_ne_nil (addressing : ReadAddressing) : addressing.bytes ≠ [] := by
  unfold ReadAddressing.bytes
  split <;> exact List.cons_ne_nil _ _

theorem ReadAddressing.bytes_length_le (addressing : ReadAddressing) :
    addressing.bytes.length ≤ maxCommandLen := by
  unfold ReadAddressing.bytes
  split <;> simp [maxCommandLen]

/-- The addressing of a read, once all of it went through, is what the bus has. -/
theorem sendCommandNow_setsUp {I : Condition NiUsbHsBackend Packet} {addressing : ReadAddressing} :
    Ends I (sendCommandNow usb addressing.bytes true) (fun _ _ => SetUp addressing) Forgotten := by
  unfold sendCommandNow
  refine fields_bind_of_forall fun c₀ => ?_
  unfold sendCommandBounded
  refine forget_forgets.bind fun _ => ?_
  have htake : Ends Forgotten (exchange usb .takeControl)
      (fun _ c l => Forgotten c l ∧ ∃ older, l = .takeControl :: older) Forgotten :=
    (exchange_ends fun _ l h => ⟨h, l, rfl⟩).weaken_fail fun _ _ => And.left
  refine htake.bind fun _ => ?_
  have hcommand : Ends (fun c l => Forgotten c l ∧ ∃ older, l = .takeControl :: older)
      (commandTransfers usb (timeoutCodeFloor c₀.timeoutMs) addressing.bytes.length addressing.bytes)
      (fun _ c l => Forgotten c l ∧ ∃ timeoutCode older,
        l = .command addressing.bytes timeoutCode :: .takeControl :: older) Forgotten := by
    refine (commandTransfers_one addressing.bytes_ne_nil addressing.bytes_length_le ?_).weaken_fail
      fun _ _ => And.left
    rintro c l ⟨hforgotten, older, rfl⟩
    exact ⟨hforgotten, _, older, rfl⟩
  refine hcommand.bind fun _ => ?_
  rw [if_pos rfl]
  have hstandby : Ends (fun c l => Forgotten c l ∧ ∃ timeoutCode older,
        l = .command addressing.bytes timeoutCode :: .takeControl :: older)
      (exchange usb .goToStandby) (fun _ c l => Forgotten c l ∧ SetUp addressing l) Forgotten := by
    refine (exchange_ends ?_).weaken_fail fun _ _ => And.left
    rintro c l ⟨hforgotten, timeoutCode, older, rfl⟩
    exact ⟨hforgotten, timeoutCode, older.filter Packet.movesBus, rfl⟩
  exact hstandby.bind fun _ => pure_ends fun _ _ => And.right

namespace NiUsbHsBackend

theorem init_forgets {I : Condition NiUsbHsBackend Packet} {myPad : UInt8} :
    Ends I (init usb myPad) (fun _ => Forgotten) Forgotten :=
  (init_ends (J := Forgotten) (K := Forgotten) (fun _ _ _ => rfl) (fun _ _ _ h => h)
    (fun _ _ _ => rfl) stable_forgotten).weaken_fail fun _ _ h => h.elim id id

theorem write_addressed {pad : UInt8} {data : List UInt8} {sendEoi : Bool} :
    Keeps Addressed (write usb pad data sendEoi) := by
  unfold write
  refine fields_bind_of_forall fun _ => bailIf_keeps.bind fun _ => ?_
  refine fields_bind_of_forall fun _ => bailIf_keeps.bind fun _ => fields_bind_of_forall fun _ => ?_
  refine (sendCommandNow_forgets.weaken_fail fun _ _ => Forgotten.addressed).bind fun _ => ?_
  exact (writeData_keeps stable_forgotten).weaken (fun _ _ => id) (fun _ _ _ => Forgotten.addressed)
    fun _ _ => Forgotten.addressed

theorem addressRead_addressed {want : ReadAddressing} : Keeps Addressed (addressRead usb want) := by
  unfold addressRead
  refine fields_bind_of_forall fun c => ?_
  split
  · refine (sendCommandNow_setsUp.weaken_fail fun _ _ => Forgotten.addressed).bind fun _ => ?_
    refine update_ends fun c l h addressing haddressing => ?_
    cases haddressing
    exact h
  · exact pure_keeps

theorem read_addressed {pad : UInt8} {maxLen : Nat} : Keeps Addressed (read usb pad maxLen) := by
  unfold read
  refine fields_bind_of_forall fun c => ?_
  split
  · exact readData_keeps stable_addressed
  · exact addressRead_addressed.bind fun _ => readData_keeps stable_addressed

theorem ren_addressed {enable : Bool} : Keeps Addressed (ren usb enable) := by
  refine registerWrite_ends fun c l h => h.send ?_
  cases enable <;> rfl

theorem goToRemote_addressed {pad : UInt8} : Keeps Addressed (goToRemote usb pad) := by
  unfold goToRemote
  exact ren_addressed.bind fun _ => keeps_addressed sendCommandNow_forgets

theorem serialPoll_addressed {pad : UInt8} {looks : Nat} :
    Keeps Addressed (serialPoll usb pad looks) := by
  intro port hport
  have hforgets : Ends (fun c _ => c.myPad = port.ctrl.myPad) (serialPoll usb pad looks)
      (fun _ => Forgotten) Forgotten :=
    serialPoll_ends (fun _ _ => id) (fun _ _ _ => rfl) (fun _ _ _ => rfl) stable_forgotten
  exact (hforgets port rfl).imp (fun _ _ => Forgotten.addressed) fun _ => Forgotten.addressed

theorem setListenOnly_addressed {enable : Bool} : Keeps Addressed (setListenOnly usb enable) := by
  refine keeps_addressed ?_
  unfold setListenOnly
  refine forget_forgets.bind fun _ => ?_
  cases enable with
  | true =>
    rw [if_pos rfl]
    refine fields_bind_of_forall fun c => (context_ends registerWrite_forgotten).bind fun _ => ?_
    exact update_ends fun _ _ h => h
  | false =>
    rw [if_neg Bool.false_ne_true]
    have hflag : Keeps Forgotten (update fun s => { s with listenOnly := false } : Op E Unit) :=
      update_ends fun _ _ h => h
    refine hflag.bind fun _ => ?_
    refine fields_bind_of_forall fun c => ?_
    exact context_ends init_forgets

theorem setDeviceMode_addressed {address : Option UInt8} :
    Keeps Addressed (setDeviceMode usb address) := by
  refine keeps_addressed ?_
  unfold setDeviceMode
  refine forget_forgets.bind fun _ => ?_
  cases address with
  | none =>
    have hflag : Keeps Forgotten (update fun s => { s with deviceAddress := none } : Op E Unit) :=
      update_ends fun _ _ h => h
    refine hflag.bind fun _ => ?_
    refine fields_bind_of_forall fun c => ?_
    exact context_ends init_forgets
  | some addr =>
    refine bailIf_keeps.bind fun _ => ?_
    refine (context_ends registerWrite_forgotten).bind fun _ => ?_
    exact update_ends fun _ _ h => h

theorem setAtn_addressed {assert : Bool} : Keeps Addressed (setAtn usb assert) := by
  refine keeps_addressed ?_
  unfold setAtn
  refine forget_forgets.bind fun _ => ?_
  exact exchange_forgotten.then_pure

theorem ifc_addressed : Keeps Addressed (ifc usb) := by
  refine keeps_addressed ?_
  unfold ifc
  refine forget_forgets.bind fun _ => ?_
  exact exchange_forgotten.then_pure

theorem sendDataUnaddressed_addressed {data : List UInt8} {sendEoi : Bool} :
    Keeps Addressed (sendDataUnaddressed usb data sendEoi) := by
  unfold sendDataUnaddressed
  refine fields_bind_of_forall fun c => bailIf_keeps.bind fun _ => ?_
  exact writeData_keeps stable_addressed

theorem busLines_addressed : Keeps Addressed (busLines usb) := by
  unfold busLines
  refine (context_ends (registerRead_keeps stable_addressed)).bind fun vals => ?_
  cases vals with
  | nil => exact bail_ends fun _ _ => id
  | cons _ _ => exact pure_keeps

/-- When the address is out of range nothing is sent; when the write of it is not known to have worked,
what was remembered is kept and may be wrong. -/
theorem setControllerPad_ends {pad : UInt8} : Ends Addressed (setControllerPad usb pad)
    (fun _ => Addressed) (fun c l => pad ≤ 30 ∨ Addressed c l) := by
  unfold setControllerPad
  refine (bailIf_ends.weaken (fun _ _ => id) (fun _ _ _ h => UInt8.not_lt.mp h.1)
    fun _ _ => Or.inr).bind fun _ => ?_
  have hregister : Ends (fun _ _ => pad ≤ 30)
      (registerWrite usb [⟨subdevTnt4882, regAdr, pad &&& 0x1f⟩]) (fun _ _ _ => True)
      (fun c l => pad ≤ 30 ∨ Addressed c l) :=
    (registerWrite_ends fun _ _ h => h).weaken (fun _ _ => id) (fun _ _ _ _ => trivial) fun _ _ => Or.inl
  refine (context_ends hregister).bind fun _ => ?_
  refine update_ends fun c l _ => Forgotten.addressed ?_
  rfl

/-- The packets sent since, taking control among them. -/
def Took (before : List Packet) (_ : NiUsbHsBackend) (sent : List Packet) : Prop :=
  ∃ new, sent = new ++ before ∧ Packet.takeControl ∈ new

theorem stable_took {A : Packet → Prop} {before : List Packet} : Stable A (Took before) :=
  stable_since fun packet _ _ hmem => List.mem_cons_of_mem packet hmem

/-- A read that addresses begins by taking control. -/
theorem read_takes {pad : UInt8} {maxLen : Nat} {port : NiPort E}
    (hdevice : port.ctrl.deviceAddress = none)
    (hother : port.ctrl.readAddressing ≠ some (port.ctrl.wantedAddressing pad)) :
    Packet.takeControl ∈ sentBy (read usb pad maxLen) port := by
  have hread : Ends (fun c l => c = port.ctrl ∧ l = port.sent) (read usb pad maxLen)
      (fun _ => Took port.sent) (Took port.sent) := by
    unfold read
    refine fields_bind_of_eq (fun _ _ => And.left) ?_
    rw [hdevice, if_neg (by simp)]
    have haddress : Ends (fun c l => c = port.ctrl ∧ l = port.sent)
        (addressRead usb (port.ctrl.wantedAddressing pad)) (fun _ => Took port.sent)
        (Took port.sent) := by
      unfold addressRead
      refine fields_bind_of_eq (fun _ _ => And.left) ?_
      rw [if_pos hother]
      unfold sendCommandNow
      refine (fields_bind_of_eq (fun _ _ => And.left) (sendCommandBounded_takes ?_ stable_took)).bind
        fun _ => update_ends fun _ _ h => h
      rintro c l ⟨-, rfl⟩
      exact ⟨[.takeControl], rfl, List.mem_singleton_self _⟩
    exact haddress.bind fun _ => readData_keeps stable_took
  obtain ⟨new, hnew, hmem⟩ := (hread port ⟨rfl, rfl⟩).state
  rw [sentBy_eq hnew]
  exact hmem

end NiUsbHsBackend

variable (usb) in
/-- A call to change the controller's address that gets as far as the chip works. -/
def PadSet (port : NiPort E) (call : Call × List (Answer E)) : Prop :=
  ∀ pad, call.1 = .setControllerPad pad → pad ≤ 30 → (call.1.exec usb call.2 port).1 = some (.ok ())

open NiUsbHsBackend in
theorem Call.op_addressed {call : Call} (hpad : ∀ pad, call ≠ .setControllerPad pad) :
    Keeps Addressed (call.op usb) := by
  cases call with
  | init => exact keeps_addressed init_forgets
  | write => exact write_addressed
  | read => exact read_addressed.then_pure
  | deviceClear => exact keeps_addressed sendCommandNow_forgets
  | trigger => exact keeps_addressed sendCommandNow_forgets
  | ifc => exact ifc_addressed
  | ren => exact ren_addressed
  | goToRemote => exact goToRemote_addressed
  | goToLocal => exact keeps_addressed sendCommandNow_forgets
  | localLockout => exact keeps_addressed sendCommandNow_forgets
  | serialPoll => exact serialPoll_addressed.then_pure
  | busLines => exact busLines_addressed.then_pure
  | setListenOnly => exact setListenOnly_addressed
  | setDeviceMode => exact setDeviceMode_addressed
  | sendBusCommand => exact keeps_addressed sendCommandNow_forgets
  | setAtn => exact setAtn_addressed
  | setControllerPad pad => exact absurd rfl (hpad pad)
  | sendDataUnaddressed => exact sendDataUnaddressed_addressed
  | readUnaddressed =>
    exact (readData_keeps stable_addressed).then_pure
  | setEos => exact fun _ h => h
  | setTimeout => exact fun _ h => h

theorem step_addressed {port port' : NiPort E} {call : Call × List (Answer E)}
    (h : port.Meets Addressed) (hpad : PadSet usb port call) (hstep : step usb port call = some port') :
    port'.Meets Addressed := by
  obtain ⟨call, answers⟩ := call
  cases hstep
  by_cases hcall : ∃ pad, call = .setControllerPad pad
  · obtain ⟨pad, rfl⟩ := hcall
    have hrule : Ends Addressed (NiUsbHsBackend.setControllerPad usb pad) (fun _ => Addressed)
        (fun c l => pad ≤ 30 ∨ Addressed c l) := NiUsbHsBackend.setControllerPad_ends
    have hends := hrule { port with answers } h
    have hok := hpad pad rfl
    unfold Call.exec Call.op at hok ⊢
    generalize (NiUsbHsBackend.setControllerPad usb pad).exec { port with answers } = result at *
    match result, hends with
    | (some (.ok _), _), hends => exact hends
    | (some (.error _), _), .inr hends => exact hends
    | (none, _), .inr hends => exact hends
    | (some (.error _), _), .inl hrange => cases hok hrange
    | (none, _), .inl hrange => cases hok hrange
  · have hkeeps : Keeps Addressed (call.op usb) :=
      Call.op_addressed fun pad hcall' => hcall ⟨pad, hcall'⟩
    exact Interruptible.Keeps.exec hkeeps (s := { port with answers }) h

theorem addressed_of_reach {timeoutMs : Nat} {hsPlus : Bool} {port : NiPort E}
    (h : Reach (step usb) (PadSet usb) (newPort timeoutMs hsPlus) port) : port.Meets Addressed := by
  refine h.invariant (P := (·.Meets Addressed)) ?_ fun _ _ _ => step_addressed
  have hnew : (newPort timeoutMs hsPlus : NiPort E).Meets Forgotten := rfl
  exact Forgotten.addressed hnew

variable (usb) in
/-- The read has an addressing of its own and sends nothing that moves the bus. -/
def SkipsAddressing (pad : UInt8) (maxLen : Nat) (port : NiPort E) : Prop :=
  port.ctrl.deviceAddress = none ∧
    ∀ packet ∈ sentBy (NiUsbHsBackend.read usb pad maxLen) port, packet.movesBus = false

instance {pad : UInt8} {maxLen : Nat} {port : NiPort E} :
    Decidable (SkipsAddressing usb pad maxLen port) := inferInstanceAs (Decidable (_ ∧ _))

theorem setUp_of_skipsAddressing {timeoutMs : Nat} {hsPlus : Bool} {port : NiPort E} {pad : UInt8}
    {maxLen : Nat} {answers : List (Answer E)}
    (hreach : Reach (step usb) (PadSet usb) (newPort timeoutMs hsPlus) port)
    (hskip : SkipsAddressing usb pad maxLen { port with answers }) :
    SetUp (port.ctrl.wantedAddressing pad) port.sent := by
  obtain ⟨hdevice, hsent⟩ := hskip
  refine addressed_of_reach hreach _ (Classical.byContradiction fun hother => ?_)
  have htook : Packet.takeControl ∈ sentBy (NiUsbHsBackend.read usb pad maxLen) { port with answers } :=
    NiUsbHsBackend.read_takes hdevice hother
  exact absurd (hsent _ htook) (by decide)

theorem setUp_of_skipsAddressing_second_read : ∃ port : NiPort Unit,
    SkipsAddressing oneError 5 100 port ∧ SetUp ⟨some 5, 0⟩ port.sent := by
  have hinit : Reach (step oneError) (PadSet oneError) (newPort 3000 false) _ :=
    Reach.refl.tail (a := (Call.init 0, acceptsInit)) (by intro _ h; cases h) rfl
  have hread := hinit.tail
    (a := (Call.read 5 100, acceptsAddressing ++ accepts Ni.niusbIbrdStatusId))
    (by intro _ h; cases h) rfl
  have hset : ∀ port : NiPort Unit, Reach (step oneError) (PadSet oneError) (newPort 3000 false) port →
      SkipsAddressing oneError 5 100 { port with answers := [] } →
      SetUp (port.ctrl.wantedAddressing 5) port.sent :=
    fun _ hreach hskip => setUp_of_skipsAddressing hreach hskip
  exact ⟨_, by decide +kernel, hset _ hread (by decide +kernel)⟩

/-- A change of the controller's address is sent and not answered in time. The next read of the same
talker still leaves its addressing out. -/
theorem skipsAddressing_after_setControllerPad_failed : ∃ port : NiPort Unit,
    Reach (step oneError) anyStep (newPort 3000 false) port ∧
      SkipsAddressing oneError 5 100 port ∧ ¬SetUp (port.ctrl.wantedAddressing 5) port.sent := by
  obtain ⟨port, hreach, htest⟩ := exists_reach_of_exec (step oneError) (newPort 3000 false)
    (fun port => decide (SkipsAddressing oneError 5 100 port) &&
      decide ((port.sent.filter Packet.movesBus).head? =
        some (.registerWrite [⟨subdevTnt4882, regAdr, 7⟩])))
    [(.init 0, acceptsInit), (.read 5 100, acceptsAddressing ++ accepts Ni.niusbIbrdStatusId),
      (.setControllerPad 7, [.completed [], .late])] (by decide +kernel)
  obtain ⟨hskip, hlast⟩ : SkipsAddressing oneError 5 100 port ∧
      (port.sent.filter Packet.movesBus).head? =
        some (.registerWrite [⟨subdevTnt4882, regAdr, 7⟩]) := by simpa using htest
  refine ⟨port, hreach, hskip, ?_⟩
  rintro ⟨timeoutCode, older, hset⟩
  rw [hset] at hlast
  cases hlast

end Ugpibd.Backend.NiUsbHs
