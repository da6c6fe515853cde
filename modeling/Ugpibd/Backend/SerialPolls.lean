import Ugpibd.Backend.AgilentSteps
import Ugpibd.Backend.NiSteps

/-! How a serial poll that fails leaves the bus. Serial Poll Enable puts every instrument into
serial-poll mode, so a poll is to send Serial Poll Disable before it returns; one that fails early
does not. -/
namespace Ugpibd.Backend
open Library Operation

variable {E : Type}

/-- A poll is its early part, whose failure is returned at once, and the rest. -/
theorem sentBy_early {C P α : Type} {early : Operation C P E Unit} {rest : Unit → Operation C P E α}
    {port : Port C P E} {I : Condition C P} {N : List P → Prop} {packet : P → Bool}
    (hearly : (sentBy early port).any packet → (early.exec port).1 = some (.ok ()))
    (hended : ((early >>= rest).exec port).1.isSome)
    (hsent : (sentBy (early >>= rest) port).any packet)
    (hstart : Ends (fun c l => c = port.ctrl ∧ l = port.sent) early (fun _ => I) (fun _ _ => True))
    (hrest : Settles I (rest ()) (fun _ => Since port.sent N) (Since port.sent N)) :
    N (sentBy (early >>= rest) port) := by
  have hbind := Interruptible.exec_bind early rest port
  have hI := hstart port ⟨rfl, rfl⟩
  match hexec : early.exec port, hI with
  | (some (.ok ()), after), hI =>
    rw [hexec] at hbind
    rw [hbind] at hended
    obtain ⟨new, hnew, hN⟩ := (hrest after hI hended).state
    rw [sentBy_eq (by rw [hbind]; exact hnew)]
    exact hN
  | (some (.error e), after), _ =>
    -- the early part has sent all there is, and failed
    rw [hexec] at hbind
    have hsame : sentBy (early >>= rest) port = sentBy early port := by
      unfold sentBy
      rw [hbind, hexec]
    have hok := hearly (hsame ▸ hsent)
    rw [hexec] at hok
    cases hok
  | (none, after), _ =>
    rw [hexec] at hbind
    rw [hbind] at hended
    cases hended

namespace NiUsbHs

def Packet.isCommand (cmd : List UInt8) : Packet → Bool
  | .command bytes _ => bytes == cmd
  | _ => false

/-- What sending command bytes hands over, newest first: they follow the taking of control unless that
fails. -/
inductive Attempted (cmd : List UInt8) : List Packet → Prop
  | takeControl : Attempted cmd [.takeControl]
  | command (timeoutCode : UInt8) : Attempted cmd [.command cmd timeoutCode, .takeControl]

/-- After such packets the command bytes were handed over. -/
def HandedOver (cmd : List UInt8) (N : List Packet → Prop) (new : List Packet) : Prop :=
  ∃ timeoutCode older, new = .command cmd timeoutCode :: .takeControl :: older ∧ N older

/-- After such packets it was tried to send the command bytes. -/
def Tried (cmd : List UInt8) (N : List Packet → Prop) (new : List Packet) : Prop :=
  ∃ placed older, new = placed ++ older ∧ Attempted cmd placed ∧ N older

theorem HandedOver.tried {cmd : List UInt8} {N : List Packet → Prop} {new : List Packet}
    (h : HandedOver cmd N new) : Tried cmd N new := by
  obtain ⟨timeoutCode, older, rfl, holder⟩ := h
  exact ⟨[.command cmd timeoutCode, .takeControl], older, rfl, .command timeoutCode, holder⟩

/-- The command bytes that open a poll by a controller at `own`. -/
def pollEnable (own pad : UInt8) : List UInt8 :=
  [gpibUnl, gpibSpe, talkAddress pad, listenAddress own]

/-- Serial Poll Enable may have gone out. -/
def Enabled (enable : List UInt8) (new : List Packet) : Prop := new.any (·.isCommand enable)

/-- After its enable command the poll has tried to send Serial Poll Disable with Untalk, and to re-arm
the monitor. -/
def PutBack (enable : List UInt8) (new : List Packet) : Prop :=
  ∃ older, new = .rearmSrq ibstaSrqi :: older ∧ Tried [gpibSpd, gpibUnt] (Enabled enable) older

/-- The part of a serial poll whose failure is returned at once. -/
def NiUsbHsBackend.enablePoll (usb : UsbErrors E) (pad : UInt8) : Op E Unit := do
  sendCommandNow usb (pollEnable (← fields).myPad pad) false
  readyAcceptor usb

variable {usb : UsbErrors E} {before : List Packet}

/-- All ways out of sending a few command bytes come after an attempt to. -/
theorem sendCommandNow_tries {cmd : List UInt8} {N : List Packet → Prop} (hne : cmd ≠ [])
    (hshort : cmd.length ≤ maxCommandLen) :
    Ends (Since before N) (sendCommandNow usb cmd false) (fun _ => Since before (HandedOver cmd N))
      (Since before (Tried cmd N)) := by
  unfold sendCommandNow
  refine fields_bind_of_forall fun c => ?_
  unfold sendCommandBounded
  refine update_bind (K := Since before N) (fun _ _ h => h) ?_
  have htake : Ends (Since before N) (exchange usb .takeControl)
      (fun _ => Since before fun new => ∃ older, new = .takeControl :: older ∧ N older)
      (Since before fun new => ∃ older, new = .takeControl :: older ∧ N older) := by
    refine exchange_ends ?_
    rintro _ _ ⟨new, rfl, hnew⟩
    exact ⟨_, rfl, new, rfl, hnew⟩
  refine (htake.weaken_fail ?_).bind fun _ => ?_
  · rintro _ _ ⟨_, rfl, older, rfl, holder⟩
    exact ⟨_, rfl, [.takeControl], older, rfl, .takeControl, holder⟩
  have hplace : Ends (Since before fun new => ∃ older, new = .takeControl :: older ∧ N older)
      (commandTransfers usb (timeoutCodeFloor c.timeoutMs) cmd.length cmd)
      (fun _ => Since before (HandedOver cmd N)) (Since before (HandedOver cmd N)) := by
    refine commandTransfers_one hne hshort ?_
    rintro _ _ ⟨_, rfl, older, rfl, holder⟩
    exact ⟨_, rfl, _, older, rfl, holder⟩
  refine (hplace.weaken_fail ?_).bind fun _ => pure_ends fun _ _ h => h
  rintro _ _ ⟨new, hnew, hplaced⟩
  exact ⟨new, hnew, hplaced.tried⟩

/-- Serial Poll Enable does not come back. -/
theorem stable_enabled {A : Packet → Prop} {enable : List UInt8} :
    Stable A (Since before (Enabled enable) : Condition NiUsbHsBackend Packet) :=
  stable_since fun _ _ _ hnew => Bool.or_eq_true_iff.mpr (.inr hnew)

namespace NiUsbHsBackend

theorem readyAcceptor_keeps_enabled {enable : List UInt8} :
    Keeps (Since before (Enabled enable)) (readyAcceptor usb) :=
  context_ends (registerWrite_ends fun c l => stable_enabled (A := fun _ => True) _ c l trivial)

theorem restoreAcceptor_keeps_enabled {enable : List UInt8} :
    Keeps (Since before (Enabled enable)) (restoreAcceptor usb) :=
  context_ends (registerWrite_ends fun c l => stable_enabled (A := fun _ => True) _ c l trivial)

theorem enablePoll_ends {port : NiPort E} {pad : UInt8} :
    Ends (fun c l => c = port.ctrl ∧ l = port.sent) (enablePoll usb pad)
      (fun _ => Since port.sent (Enabled (pollEnable port.ctrl.myPad pad))) (fun _ _ => True) := by
  unfold enablePoll
  refine fields_bind_of_eq (fun _ _ => And.left) ?_
  have hcommand : Ends (Since port.sent (· = []))
      (sendCommandNow usb (pollEnable port.ctrl.myPad pad) false)
      (fun _ => Since port.sent (HandedOver (pollEnable port.ctrl.myPad pad) (· = [])))
      (Since port.sent (Tried (pollEnable port.ctrl.myPad pad) (· = []))) :=
    sendCommandNow_tries (by simp [pollEnable]) (by simp [pollEnable, maxCommandLen])
  refine (hcommand.weaken ?_ (fun _ _ _ h => h) (fun _ _ _ => trivial)).bind fun _ => ?_
  · rintro _ _ ⟨-, rfl⟩
    exact ⟨[], rfl, rfl⟩
  refine readyAcceptor_keeps_enabled.weaken ?_ (fun _ _ _ h => h) (fun _ _ _ => trivial)
  rintro _ _ ⟨_, rfl, timeoutCode, older, rfl, -⟩
  exact ⟨_, rfl, by simp [Enabled, Packet.isCommand]⟩

/-- Once the acceptor is ready, no failure keeps the poll from putting everything back. -/
theorem serialPoll_eq_bind (usb : UsbErrors E) (before : List Packet) (pad : UInt8) (looks : Nat)
    (enable : List UInt8) : ∃ rest, serialPoll usb pad looks = enablePoll usb pad >>= rest ∧
      Settles (Since before (Enabled enable)) (rest ()) (fun _ => Since before (PutBack enable))
        (Since before (PutBack enable)) := by
  refine ⟨_, (by unfold serialPoll enablePoll; simp only [bind_assoc]; rfl), ?_⟩
  have hpolled : Keeps (Since before (Enabled enable)) (do
      let _ ← exchange usb .goToStandby
      takeStatusByte usb looks) :=
    (exchange_keeps stable_enabled (A := fun _ => True) trivial).bind fun _ =>
      takeStatusByte_keeps stable_enabled
  refine (Interruptible.Settles.attempt hpolled.settles).bind fun polled => ?_
  refine (Interruptible.Settles.attempt restoreAcceptor_keeps_enabled.settles).bind fun stopped => ?_
  have hdisable : Ends (Since before (Enabled enable)) (sendCommandNow usb [gpibSpd, gpibUnt] false)
      (fun _ => Since before (Tried [gpibSpd, gpibUnt] (Enabled enable)))
      (Since before (Tried [gpibSpd, gpibUnt] (Enabled enable))) := by
    refine (sendCommandNow_tries (by simp) (by simp [maxCommandLen])).weaken_post ?_
    rintro _ _ _ ⟨new, hnew, hplaced⟩
    exact ⟨new, hnew, hplaced.tried⟩
  refine (Interruptible.Settles.attempt hdisable.settles).bind fun disabled => ?_
  have hrearm : Ends (Since before (Tried [gpibSpd, gpibUnt] (Enabled enable)))
      (rearmSrq usb ibstaSrqi) (fun _ => Since before (PutBack enable))
      (Since before (PutBack enable)) := by
    refine rearmSrq_ends ?_
    rintro _ _ ⟨new, rfl, hnew⟩
    exact ⟨_, rfl, new, rfl, hnew⟩
  refine (Interruptible.Settles.attempt hrearm.settles).bind fun _ => ?_
  refine (Interruptible.Ends.bind ofExcept_keeps fun stb => ?_).settles
  refine (context_ends ofExcept_keeps).bind fun _ => ?_
  exact (context_ends ofExcept_keeps).bind fun _ => pure_ends fun _ _ h => h

end NiUsbHsBackend
end NiUsbHs

namespace Agilent

def Packet.isCommand (cmd : List UInt8) : Packet → Bool
  | .gpibCommand bytes => bytes == cmd
  | _ => false

/-- The command bytes that open a poll. -/
def pollEnable (pad : UInt8) : List UInt8 := [gpibUnl, gpibSpe, talkAddress pad, listenAddress 0]

/-- Serial Poll Enable may have gone out. -/
def Enabled (pad : UInt8) (new : List Packet) : Prop := new.any (·.isCommand (pollEnable pad))

/-- After its enable command the poll has tried to send Serial Poll Disable with Untalk. -/
def PutBack (pad : UInt8) (new : List Packet) : Prop :=
  ∃ newer older, new = newer ++ .gpibCommand [gpibSpd, gpibUnt] :: older ∧ Enabled pad older

/-- The part of a serial poll whose failure is returned at once. -/
def GpibController.enablePoll (usb : UsbErrors E) (pad : UInt8) : Op E Unit := do
  sendCommandBytes usb (pollEnable pad)
  writeRegisters usb [⟨tmsAuxcr, auxGts⟩]
  writeBulk usb (.gpibRead 1 false 0 true)

variable {usb : UsbErrors E} {before : List Packet} {pad : UInt8}

theorem stable_enabled {A : Packet → Prop} :
    Stable A (Since before (Enabled pad) : Condition GpibController Packet) :=
  stable_since fun _ _ _ hnew => Bool.or_eq_true_iff.mpr (.inr hnew)

theorem stable_putBack {A : Packet → Prop} :
    Stable A (Since before (PutBack pad) : Condition GpibController Packet) := by
  refine stable_since ?_
  rintro packet _ _ ⟨newer, older, rfl, holder⟩
  exact ⟨packet :: newer, older, rfl, holder⟩

namespace GpibController

/-- The packet is handed over before anything can fail. -/
theorem sendBytes_ends {packet : Packet} {I J : Condition GpibController Packet}
    (h : ∀ c l, I c l → J c (packet :: l)) (hJ : Stable Clearing J) :
    Ends I (sendBytes usb packet) (fun _ => J) J := by
  unfold sendBytes
  refine (writeBulk_ends h).bind fun _ => ?_
  exact (recovering_keeps hJ usb_keeps).bind fun _ => recovering_keeps hJ usb_keeps

theorem enablePoll_ends {port : Port GpibController Packet E} :
    Ends (fun c l => c = port.ctrl ∧ l = port.sent) (enablePoll usb pad)
      (fun _ => Since port.sent (Enabled pad)) (fun _ _ => True) := by
  unfold enablePoll
  have hcommand : Ends (fun c l => c = port.ctrl ∧ l = port.sent)
      (sendCommandBytes usb (pollEnable pad)) (fun _ => Since port.sent (Enabled pad))
      (Since port.sent (Enabled pad)) := by
    refine sendBytes_ends ?_ stable_enabled
    rintro _ _ ⟨-, rfl⟩
    exact ⟨[_], rfl, by simp [Enabled, Packet.isCommand]⟩
  refine (hcommand.weaken_fail fun _ _ _ => trivial).bind fun _ => ?_
  have hstable : Stable (fun _ => True) (Since port.sent (Enabled pad)) := stable_enabled
  have hrest : Keeps (Since port.sent (Enabled pad)) (do
      writeRegisters usb [⟨tmsAuxcr, auxGts⟩]
      writeBulk usb (.gpibRead 1 false 0 true)) :=
    (writeRegisters_ends fun c l => hstable _ c l trivial).bind fun _ =>
      writeBulk_ends fun c l => hstable _ c l trivial
  exact hrest.weaken_fail fun _ _ _ => trivial

theorem disable_ends : Ends (Since before (Enabled pad)) (sendCommandBytes usb [gpibSpd, gpibUnt])
    (fun _ => Since before (PutBack pad)) (Since before (PutBack pad)) := by
  refine sendBytes_ends ?_ stable_putBack
  rintro _ _ ⟨new, rfl, hnew⟩
  exact ⟨_, rfl, [], new, rfl, hnew⟩

theorem recoverFromStall_settles {I J : Condition GpibController Packet} (hI : Stable Clearing I) :
    Settles I (recoverFromStall usb) (fun _ => I) J := by
  unfold recoverFromStall
  refine (Interruptible.Settles.attempt abort_keeps.settles).bind fun _ => ?_
  refine transfer_settles.bind fun _ => ?_
  refine (Interruptible.Settles.attempt abort_keeps.settles).bind fun _ => ?_
  refine (Interruptible.Settles.attempt (ifc_keeps hI).settles).bind fun _ => ?_
  exact Interruptible.Ends.settles (pure_ends fun _ _ h => h)

theorem pollFailed_settles {fail : Op E UInt8} (hfail : Keeps (Since before (PutBack pad)) fail) :
    Settles (Since before (Enabled pad)) (pollFailed usb fail) (fun _ => Since before (PutBack pad))
      (Since before (PutBack pad)) := by
  unfold pollFailed
  refine (recoverFromStall_settles stable_enabled).bind fun _ => ?_
  exact (Interruptible.Settles.attempt disable_ends.settles).bind fun _ => hfail.settles

/-- Once the byte is asked for, no failure keeps the poll from sending the disable command. -/
theorem serialPoll_eq_bind (usb : UsbErrors E) (before : List Packet) (pad : UInt8) :
    ∃ rest, serialPoll usb pad = enablePoll usb pad >>= rest ∧
      Settles (Since before (Enabled pad)) (rest ()) (fun _ => Since before (PutBack pad))
        (Since before (PutBack pad)) := by
  refine ⟨_, (by unfold serialPoll enablePoll; simp only [bind_assoc]; rfl), ?_⟩
  refine transfer_settles.bind fun answer => ?_
  cases answer with
  | completed raw =>
    refine (Interruptible.Ends.bind disable_ends fun _ => ?_).settles
    dsimp only
    split
    · exact bail_ends fun _ _ h => h
    · exact pure_ends fun _ _ h => h
  | failed error => exact pollFailed_settles bulkInFailed_keeps
  | late =>
    refine Interruptible.Settles.bind fields_ends.settles fun _ => ?_
    exact pollFailed_settles (bail_ends fun _ _ h => h)

end GpibController
end Agilent

/-- A poll whose standby is not answered in time. -/
def NiUsbHs.standbyLate : NiUsbHs.NiPort Unit :=
  NiUsbHs.answered (NiUsbHs.accepts NiUsbHs.niusbIbcacId ++ NiUsbHs.accepts NiUsbHs.niusbCommandOp ++
    NiUsbHs.acceptsRegisters 2 ++ [.late] ++ NiUsbHs.acceptsRegisters 1 ++
    NiUsbHs.accepts NiUsbHs.niusbIbcacId ++ NiUsbHs.accepts NiUsbHs.niusbCommandOp ++ [.late])

/-- A poll whose byte does not come. -/
def Agilent.byteLate : Agilent.AgilentPort Unit :=
  Agilent.answered (Agilent.acceptsBytes ++ Agilent.acceptsRegisters ++ [.completed [], .late] ++
    -- the recovery: the abort and the drain fail, and the bus is cleared
    [.late, .late, .late] ++ Agilent.acceptsRegisters ++ Agilent.acceptsRegisters ++
    Agilent.acceptsBytes)

/-- The enable command is on the bus, and its reply does not come. -/
def NiUsbHs.enableLate : NiUsbHs.NiPort Unit :=
  NiUsbHs.answered (NiUsbHs.accepts NiUsbHs.niusbIbcacId ++ [.completed [], .late])

/-- The enable command is accepted, and going to standby fails. -/
def Agilent.standbyFails : Agilent.AgilentPort Unit :=
  Agilent.answered (Agilent.acceptsBytes ++ [.failed ()])

end Ugpibd.Backend
