import Ugpibd.Backend.AgilentSteps
import Ugpibd.Backend.NiSteps

/-! The bus chips of the two adapters, as far as the registers that were written last say what mode they
are in and what address they answer to. -/
namespace Ugpibd.Backend
open Library Operation

namespace NiUsbHs

/-- `address` is what the address register was given last, if it was. -/
structure Chip where
  listenOnly : Bool := false
  systemController : Bool := false
  address : Option UInt8 := none
  deriving DecidableEq, Repr

/-- An address register write with the top bit set is about the secondary address. -/
def Chip.write (chip : Chip) (r : NiRegister) : Chip where
  listenOnly :=
    if r.device = subdevTnt4882 ∧ r.address = regAdmr then r.value &&& hrLon != 0 else chip.listenOnly
  systemController :=
    if r.device = subdevTnt4882 ∧ r.address = regCmdr ∧ r.value = cmdrSetsc then true
    else if r.device = subdevTnt4882 ∧ r.address = regCmdr ∧ r.value = cmdrClrsc then false
    else chip.systemController
  address :=
    if r.device = subdevTnt4882 ∧ r.address = regAdr ∧ r.value &&& 0x80 = 0 then
      some (r.value &&& 0x1f)
    else chip.address

def Chip.take (chip : Chip) : Packet → Chip
  | .registerWrite regs => regs.foldl .write chip
  | _ => chip

/-- The chip after what was sent. -/
def chipOf (sent : List Packet) : Chip := sent.foldr (fun packet chip => chip.take packet) {}

@[simp]
theorem chipOf_cons (packet : Packet) (sent : List Packet) :
    chipOf (packet :: sent) = (chipOf sent).take packet := rfl

/-- The packet is about neither the mode nor the address. -/
def Packet.Neutral (packet : Packet) : Prop := ∀ chip : Chip, chip.take packet = chip

theorem stable_of_neutral {A : Packet → Prop} (hA : ∀ packet, A packet → packet.Neutral)
    {Q : NiUsbHsBackend → Chip → Prop} : Stable A (fun c l => Q c (chipOf l)) := stable_foldr hA

variable {packet : Packet} {cmd : List UInt8} {own pad myPad : UInt8}

theorem Commanding.neutral (h : Commanding cmd packet) : packet.Neutral := by
  cases h <;> exact fun _ => rfl

theorem Transferring.neutral (h : Transferring packet) : packet.Neutral := by
  cases h <;> exact fun _ => rfl

theorem neutral_ren {enable : Bool} :
    (Packet.registerWrite [⟨subdevTnt4882, regAuxmr, if enable then auxSren else auxCren⟩]).Neutral :=
  fun _ => rfl

namespace NiUsbHsBackend

theorem Writing.neutral (h : Writing own pad packet) : packet.Neutral := by
  cases h with
  | command h => exact h.neutral
  | data h => exact h.neutral

theorem Reading.neutral (h : Reading own pad packet) : packet.Neutral := by
  cases h with
  | command _ _ h => exact h.neutral
  | data h => exact h.neutral

theorem Polling.neutral (h : Polling own pad packet) : packet.Neutral := by
  cases h with
  | enable h => exact h.neutral
  | acceptor regs hregs =>
    intro chip
    change regs.foldl Chip.write chip = chip
    induction regs with
    | nil => rfl
    | cons r regs ih =>
      obtain ⟨hr, hrest⟩ := List.forall_mem_cons.mp hregs
      have hwrite : chip.write r = chip := by
        obtain ⟨device, address, value⟩ := r
        obtain ⟨rfl, ⟨rfl, rfl⟩ | ⟨rfl, rfl | rfl⟩⟩ := hr <;> rfl
      rw [List.foldl_cons, hwrite]
      exact ih hrest
  | look h => exact h.neutral
  | disable h => exact h.neutral
  | rearm => exact fun _ => rfl

theorem BringingUp.neutral (h : BringingUp myPad packet) : packet.Neutral := by
  cases h with
  | interfaceClear => exact fun _ => rfl
  | ren => exact fun _ => rfl
  | address h => exact h.neutral
  | priming => exact fun _ => rfl

end NiUsbHsBackend

theorem Chip.write_adr (chip : Chip) (pad : UInt8) :
    chip.write ⟨subdevTnt4882, regAdr, pad &&& 0x1f⟩ = { chip with address := some (pad &&& 0x1f) } := by
  have htop : pad &&& 0x1f &&& 0x80 = 0 := by
    rw [UInt8.and_assoc]
    exact UInt8.and_zero
  have hmask : pad &&& 0x1f &&& 0x1f = pad &&& 0x1f := by rw [UInt8.and_assoc, UInt8.and_self]
  simp only [Chip.write, htop, hmask]
  rfl

/-- The whole bring-up: whatever the chip was, it is the controller at `pad`. -/
theorem Chip.take_setupInit (chip : Chip) (pad : UInt8) (eosMode : UInt16) :
    chip.take (.registerWrite (setupInit pad eosMode)) =
      { listenOnly := false, systemController := true, address := some (pad &&& 0x1f) } := by
  simp only [Chip.take, setupInit, setupT1Delay, setupDisableSad, List.foldl_append, List.foldl_cons,
    List.foldl_nil, Chip.write_adr]
  rfl

end NiUsbHs

/-- An address in range fits the register. -/
theorem and_0x1f_of_le {pad : UInt8} (h : pad ≤ 30) : pad &&& 0x1f = pad := by
  have hle : pad.toNat ≤ 30 := UInt8.le_iff_toNat_le.mp h
  apply UInt8.toNat_inj.mp
  rw [UInt8.toNat_and]
  exact (Nat.and_two_pow_sub_one_eq_mod pad.toNat 5).trans (Nat.mod_eq_of_lt (by omega))

namespace Agilent

structure Chip where
  listenOnly : Bool := false
  address : Option UInt8 := none
  deriving DecidableEq, Repr

/-- An auxiliary command carries whether it sets or clears in its top bit. -/
def Chip.write (chip : Chip) (r : RegisterPairlet) : Chip where
  listenOnly :=
    if r.address = tmsAuxcr ∧ r.value &&& ~~~auxCs = auxLon then r.value &&& auxCs != 0
    else chip.listenOnly
  address := if r.address = tmsAdr then some (r.value &&& addressMask) else chip.address

def Chip.take (chip : Chip) : Packet → Chip
  | .wrRegs regs => regs.foldl .write chip
  | _ => chip

/-- The chip after what was sent. -/
def chipOf (sent : List Packet) : Chip := sent.foldr (fun packet chip => chip.take packet) {}

@[simp]
theorem chipOf_cons (packet : Packet) (sent : List Packet) :
    chipOf (packet :: sent) = (chipOf sent).take packet := rfl

/-- The packet is about neither the mode nor the address. -/
def Packet.Neutral (packet : Packet) : Prop := ∀ chip : Chip, chip.take packet = chip

theorem stable_of_neutral {A : Packet → Prop} (hA : ∀ packet, A packet → packet.Neutral)
    {Q : GpibController → Chip → Prop} : Stable A (fun c l => Q c (chipOf l)) := stable_foldr hA

variable {packet other : Packet} {pad : UInt8} {data : List UInt8} {sendEoi : Bool}

theorem Clearing.neutral (h : Clearing packet) : packet.Neutral := by
  cases h <;> exact fun _ => rfl

theorem Sending.neutral (h : Sending packet other) (hpacket : packet.Neutral) : other.Neutral := by
  cases h with
  | packet => exact hpacket
  | clearing h => exact h.neutral

theorem ReadingData.neutral (h : ReadingData packet) : packet.Neutral := by
  cases h with
  | standby => exact fun _ => rfl
  | request => exact fun _ => rfl
  | clearing h => exact h.neutral

theorem Writing.neutral (h : Writing pad data sendEoi packet) : packet.Neutral := by
  cases h with
  | address h => exact h.neutral fun _ => rfl
  | data h => exact h.neutral fun _ => rfl

theorem Reading.neutral (h : Reading pad packet) : packet.Neutral := by
  cases h with
  | address h => exact h.neutral fun _ => rfl
  | data h => exact h.neutral

theorem Polling.neutral (h : Polling pad packet) : packet.Neutral := by
  cases h with
  | enable h => exact h.neutral fun _ => rfl
  | byte h => exact h.neutral
  | disable h => exact h.neutral fun _ => rfl

theorem BringingUp.neutral (h : BringingUp packet) : packet.Neutral := by
  cases h with
  | readBack => exact fun _ => rfl
  | control => exact fun _ => rfl
  | clearing h => exact h.neutral
  | ren => exact fun _ => rfl

theorem neutral_initBatch1 : (Packet.wrRegs GpibController.initBatch1).Neutral := fun _ => rfl

theorem Chip.take_initBatch2 (chip : Chip) (pad : UInt8) :
    chip.take (.wrRegs (GpibController.initBatch2 pad)) =
      { listenOnly := false, address := some (pad &&& addressMask) } := by
  have hmask : pad &&& addressMask &&& addressMask = pad &&& addressMask := by
    rw [UInt8.and_assoc, UInt8.and_self]
  rw [← hmask]
  rfl

end Agilent
end Ugpibd.Backend
