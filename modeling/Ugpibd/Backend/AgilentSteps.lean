import Ugpibd.Backend.AgilentOperations

/-! What the steps of the 82357 backend's operations send, over any condition that the packets in
question keep. An operation that stalls clears the interface, so every transfer may send that too. -/
namespace Ugpibd.Backend.Agilent
open Library Operation

/-- The pulse of an interface clear. -/
inductive Clearing : Packet → Prop
  | assert : Clearing (.wrRegs [⟨tmsAuxcr, auxSic ||| auxCs⟩])
  | release : Clearing (.wrRegs [⟨tmsAuxcr, auxSic⟩])

/-- A packet that is waited for, and what recovers from a stall. -/
inductive Sending (packet : Packet) : Packet → Prop
  | packet : Sending packet packet
  | clearing {other : Packet} : Clearing other → Sending packet other

/-- What reading data sends. -/
inductive ReadingData : Packet → Prop
  | standby : ReadingData (.wrRegs [⟨tmsAuxcr, auxGts⟩])
  | request (maxLen : Nat) (eosEnabled : Bool) (eosChar : UInt8) (endOnEoi : Bool) :
      ReadingData (.gpibRead maxLen eosEnabled eosChar endOnEoi)
  | clearing {packet : Packet} : Clearing packet → ReadingData packet

/-- What a write sends. -/
inductive Writing (pad : UInt8) (data : List UInt8) (sendEoi : Bool) : Packet → Prop
  | address {packet : Packet} :
      Sending (.gpibCommand [gpibUnl, talkAddress 0, listenAddress pad]) packet →
      Writing pad data sendEoi packet
  | data {packet : Packet} : Sending (.gpibWrite data sendEoi) packet → Writing pad data sendEoi packet

/-- What a read sends. -/
inductive Reading (pad : UInt8) : Packet → Prop
  | address {packet : Packet} :
      Sending (.gpibCommand [gpibUnl, listenAddress 0, talkAddress pad]) packet → Reading pad packet
  | data {packet : Packet} : ReadingData packet → Reading pad packet

/-- What a serial poll sends. -/
inductive Polling (pad : UInt8) : Packet → Prop
  | enable {packet : Packet} :
      Sending (.gpibCommand [gpibUnl, gpibSpe, talkAddress pad, listenAddress 0]) packet →
      Polling pad packet
  | byte {packet : Packet} : ReadingData packet → Polling pad packet
  | disable {packet : Packet} : Sending (.gpibCommand [gpibSpd, gpibUnt]) packet → Polling pad packet

/-- What bringing the controller up sends once its registers are written. -/
inductive BringingUp : Packet → Prop
  | readBack : BringingUp (.rdRegs [regHwControl])
  | control (bits : UInt8) : BringingUp (.wrRegs [⟨tmsAuxcr, auxRqc⟩, ⟨regHwControl, bits⟩])
  | clearing {packet : Packet} : Clearing packet → BringingUp packet
  | ren : BringingUp (.wrRegs [⟨tmsAuxcr, auxSre ||| auxCs⟩])

variable {E : Type} {usb : UsbErrors E} {I J : Condition GpibController Packet}

namespace GpibController

theorem writeBulk_ends {packet : Packet} (h : ∀ c l, I c l → J c (packet :: l)) :
    Ends I (writeBulk usb packet) (fun _ => J) J := by
  unfold writeBulk
  exact (send_ends h).bind fun _ => usb_keeps

theorem writeRegisters_ends {regs : List RegisterPairlet}
    (h : ∀ c l, I c l → J c (.wrRegs regs :: l)) :
    Ends I (writeRegisters usb regs) (fun _ => J) J := by
  unfold writeRegisters
  exact (send_ends h).bind fun _ => usb_keeps

theorem bulkInFailed_keeps {α : Type} {error : E} : Keeps I (bulkInFailed usb error : Op E α) :=
  bail_ends fun _ _ => id

theorem readRegisters_keeps {regs : List RegisterPairlet}
    (hI : ∀ c l, I c l → I c (.rdRegs (regs.map (·.address)) :: l)) :
    Keeps I (readRegisters usb regs) := by
  unfold readRegisters
  refine (writeBulk_ends hI).bind fun _ => usb_keeps.bind fun answer => ?_
  cases answer with
  | completed _ => exact ofExcept_keeps
  | failed _ => exact bulkInFailed_keeps
  | late => exact bail_ends fun _ _ => id

theorem controlIn_keeps : Keeps I (controlIn usb) := by
  unfold controlIn
  refine usb_keeps.bind fun answer => ?_
  cases answer with
  | completed _ => exact pure_keeps
  | failed _ => exact bail_ends fun _ _ => id
  | late => exact bail_ends fun _ _ => id

theorem abort_keeps {flush : Bool} : Keeps I (abort usb flush) := by
  unfold abort
  exact controlIn_keeps.bind fun _ => bailIf_keeps.bind fun _ => bailIf_keeps.bind fun _ => bailIf_keeps

theorem ifc_keeps (hI : Stable Clearing I) : Keeps I (ifc usb) := by
  unfold ifc
  refine (writeRegisters_ends fun c l => hI _ c l .assert).bind fun _ => ?_
  exact writeRegisters_ends fun c l => hI _ c l .release

theorem recoverFromStall_keeps (hI : Stable Clearing I) : Keeps I (recoverFromStall usb) := by
  unfold recoverFromStall
  refine (Interruptible.Keeps.attempt abort_keeps).bind fun _ => usb_keeps.bind fun _ => ?_
  refine (Interruptible.Keeps.attempt abort_keeps).bind fun _ => ?_
  exact (Interruptible.Keeps.attempt (ifc_keeps hI)).then_pure

theorem recovering_keeps (hI : Stable Clearing I) {p : Op E Unit} (hp : Keeps I p) :
    Keeps I (recovering usb p) := by
  unfold recovering
  refine (Interruptible.Keeps.attempt hp).bind fun result => ?_
  cases result with
  | ok _ => exact pure_keeps
  | error _ => exact (recoverFromStall_keeps hI).bind fun _ => bail_ends fun _ _ => id

theorem sendBytes_keeps {packet : Packet} (hI : Stable (Sending packet) I) :
    Keeps I (sendBytes usb packet) := by
  have hclear : Stable Clearing I := fun other c l h => hI other c l (.clearing h)
  unfold sendBytes
  refine (writeBulk_ends fun c l => hI _ c l .packet).bind fun _ => ?_
  exact (recovering_keeps hclear usb_keeps).bind fun _ => recovering_keeps hclear usb_keeps

theorem tryCommandBytes_keeps {cmd : List UInt8} (hI : ∀ c l, I c l → I c (.gpibCommand cmd :: l)) :
    Keeps I (tryCommandBytes usb cmd) := by
  unfold tryCommandBytes
  exact (writeBulk_ends hI).bind fun _ => usb_keeps.bind fun _ => usb_keeps

theorem write_keeps {pad : UInt8} {data : List UInt8} {sendEoi : Bool}
    (hI : Stable (Writing pad data sendEoi) I) : Keeps I (write usb pad data sendEoi) := by
  unfold write
  refine fields_bind_of_forall fun _ => bailIf_keeps.bind fun _ => ?_
  refine (sendBytes_keeps fun packet c l h => hI packet c l (.address h)).bind fun _ => ?_
  exact sendBytes_keeps fun packet c l h => hI packet c l (.data h)

theorem sendDataUnaddressed_keeps {data : List UInt8} {sendEoi : Bool}
    (hI : Stable (Sending (.gpibWrite data sendEoi)) I) :
    Keeps I (sendDataUnaddressed usb data sendEoi) := by
  unfold sendDataUnaddressed
  refine fields_bind_of_forall fun _ => bailIf_keeps.bind fun _ => ?_
  exact sendBytes_keeps hI

theorem recoverRead_keeps {α : Type} (hI : Stable Clearing I) {fail : Op E α} (hfail : Keeps I fail) :
    Keeps I (recoverRead usb fail) := by
  unfold recoverRead
  exact (recoverFromStall_keeps hI).bind fun _ => hfail

theorem salvage_keeps {timeoutMs : Nat} (hI : Stable Clearing I) : Keeps I (salvage usb timeoutMs) := by
  unfold salvage
  refine (Interruptible.Keeps.attempt controlIn_keeps).bind fun _ => usb_keeps.bind fun outcome => ?_
  refine (Interruptible.Keeps.attempt abort_keeps).bind fun _ => ?_
  cases outcome with
  | completed _ => exact pure_keeps
  | failed _ => exact recoverRead_keeps hI bulkInFailed_keeps
  | late =>
    refine (Interruptible.Keeps.attempt abort_keeps).bind fun _ => ?_
    refine (Interruptible.Keeps.attempt abort_keeps).bind fun _ => usb_keeps.bind fun _ => ?_
    exact bail_ends fun _ _ => id

theorem readDataBody_keeps {maxLen : Nat} (hI : Stable ReadingData I) :
    Keeps I (readDataBody usb maxLen) := by
  have hclear : Stable Clearing I := fun packet c l h => hI packet c l (.clearing h)
  unfold readDataBody
  refine (writeRegisters_ends fun c l => hI _ c l .standby).bind fun _ =>
    fields_bind_of_forall fun s => ?_
  refine (writeBulk_ends fun c l => hI _ c l (.request ..)).bind fun _ =>
    usb_keeps.bind fun answer => ?_
  cases answer with
  | completed _ => exact pure_keeps
  | failed _ => exact recoverRead_keeps hclear bulkInFailed_keeps
  | late =>
    dsimp only
    split
    · exact salvage_keeps hclear
    · exact recoverRead_keeps hclear (bail_ends fun _ _ => id)

theorem read_keeps {pad : UInt8} {maxLen : Nat} (hI : Stable (Reading pad) I) :
    Keeps I (read usb pad maxLen) := by
  have haddress : Keeps I (addressRead usb pad) := by
    unfold addressRead
    refine fields_bind_of_forall fun c => ?_
    split
    · exact sendBytes_keeps fun packet c l h => hI packet c l (.address h)
    · exact pure_keeps
  unfold read
  exact haddress.bind fun _ => readDataBody_keeps fun packet c l h => hI packet c l (.data h)

theorem serialPoll_keeps {pad : UInt8} (hI : Stable (Polling pad) I) :
    Keeps I (serialPoll usb pad) := by
  have hclear : Stable Clearing I := fun packet c l h => hI packet c l (.byte (.clearing h))
  have hdisable : Keeps I (sendCommandBytes usb [gpibSpd, gpibUnt]) :=
    sendBytes_keeps fun packet c l h => hI packet c l (.disable h)
  have hfailed : ∀ {fail : Op E UInt8}, Keeps I fail → Keeps I (pollFailed usb fail) := by
    intro fail hfail
    unfold pollFailed
    refine (recoverFromStall_keeps hclear).bind fun _ => ?_
    exact (Interruptible.Keeps.attempt hdisable).bind fun _ => hfail
  unfold serialPoll
  refine (sendBytes_keeps fun packet c l h => hI packet c l (.enable h)).bind fun _ => ?_
  refine (writeRegisters_ends fun c l => hI _ c l (.byte .standby)).bind fun _ => ?_
  refine (writeBulk_ends fun c l => hI _ c l (.byte (.request ..))).bind fun _ =>
    usb_keeps.bind fun answer => ?_
  cases answer with
  | completed raw =>
    refine hdisable.bind fun _ => ?_
    dsimp only
    split
    · exact bail_ends fun _ _ => id
    · exact pure_keeps
  | failed _ => exact hfailed bulkInFailed_keeps
  | late =>
    exact fields_bind_of_forall fun _ => hfailed (bail_ends fun _ _ => id)

theorem announceListener_keeps
    (hI : ∀ c l, I c l → I c (.gpibCommand [gpibUnl, listenAddress 0] :: l)) :
    Keeps I (announceListener usb) := by
  unfold announceListener
  refine (Interruptible.Keeps.attempt (tryCommandBytes_keeps hI)).bind fun _ => ?_
  refine (Interruptible.Keeps.attempt abort_keeps).bind fun _ => ?_
  exact (Interruptible.Keeps.attempt abort_keeps).bind fun _ => usb_keeps

theorem busLines_keeps (hI : ∀ c l, I c l → I c (.rdRegs [tmsBsr] :: l)) : Keeps I (busLines usb) := by
  unfold busLines
  exact (readRegisters_keeps hI).then_pure

/-- `J` holds until the registers are written, `K` from then on. -/
theorem init_ends {K : Condition GpibController Packet} {myPad : UInt8}
    (hstart : ∀ c l, I c l → J { c with myPad } l)
    (hreset : ∀ c l, J c l → J c (.wrRegs initBatch1 :: l))
    (hsetup : ∀ c l, J c l → K c (.wrRegs (initBatch2 myPad) :: l))
    (hbits : ∀ c l hwControlBits, K c l → K { c with hwControlBits } l) (hK : Stable BringingUp K) :
    Ends I (init usb myPad) (fun _ => K) (fun c l => J c l ∨ K c l) := by
  unfold init
  refine (update_ends hstart).bind fun _ => ?_
  refine (usb_keeps.weaken_fail fun _ _ => Or.inl).bind fun _ => ?_
  refine ((writeRegisters_ends hreset).weaken_fail fun _ _ => Or.inl).bind
    fun _ => ?_
  refine ((writeRegisters_ends hsetup).weaken_fail fun _ _ => Or.inr).bind
    fun _ => ?_
  have hcontrol : Keeps K (requestSystemControl usb) := by
    unfold requestSystemControl
    refine (update_ends fun c l => hbits c l _).bind fun _ => fields_bind_of_forall fun c => ?_
    exact writeRegisters_ends fun c l => hK _ c l (.control _)
  have hreadBack : Keeps K (readRegisters usb [⟨regHwControl, 0⟩]) :=
    readRegisters_keeps fun c l => hK _ c l .readBack
  have hrest : Keeps K (do
      let hw ← readRegisters usb [⟨regHwControl, 0⟩]
      update fun s => { s with hwControlBits := hwControl hw }
      requestSystemControl usb
      ifc usb
      ren usb true) := by
    refine hreadBack.bind fun hw => ?_
    refine (update_ends fun c l => hbits c l _).bind fun _ => hcontrol.bind fun _ => ?_
    refine (ifc_keeps fun packet c l h => hK packet c l (.clearing h)).bind fun _ => ?_
    exact writeRegisters_ends fun c l => hK _ c l .ren
  exact hrest.weaken_fail fun _ _ => Or.inr

end GpibController
end Ugpibd.Backend.Agilent
