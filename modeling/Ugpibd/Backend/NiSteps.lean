import Ugpibd.Backend.NiOperations

/-! What the steps of the NI backend's operations send, and that they change no field but the addressing
a read has set up. Each is stated over any condition that the packets in question keep. -/
namespace Ugpibd.Backend.NiUsbHs
open Library Operation

/-- The bytes of one command transfer. -/
structure IsChunkOf (cmd bytes : List UInt8) : Prop where
  ne_nil : bytes ≠ []
  within : bytes <:+: cmd
  whole : cmd.length ≤ maxCommandLen → bytes = cmd

theorem isChunkOf_take {cmd : List UInt8} (h : cmd ≠ []) :
    IsChunkOf cmd (cmd.take maxCommandLen) where
  ne_nil := by simpa [maxCommandLen] using h
  within := (List.take_prefix _ _).isInfix
  whole := List.take_of_length_le

theorem IsChunkOf.of_drop {cmd bytes : List UInt8} (h : IsChunkOf (cmd.drop maxCommandLen) bytes) :
    IsChunkOf cmd bytes where
  ne_nil := h.ne_nil
  within := h.within.trans (List.drop_suffix _ _).isInfix
  whole := by
    intro hshort
    have hrest : cmd.drop maxCommandLen = [] := List.drop_eq_nil_of_le hshort
    have hnil := h.within
    rw [hrest, List.infix_nil] at hnil
    exact absurd hnil h.ne_nil

/-- The packets that put command bytes on the bus. -/
inductive Commanding (cmd : List UInt8) : Packet → Prop
  | takeControl : Commanding cmd .takeControl
  | goToStandby : Commanding cmd .goToStandby
  | command {bytes : List UInt8} (timeoutCode : UInt8) :
      IsChunkOf cmd bytes → Commanding cmd (.command bytes timeoutCode)

/-- The packets that move data, or look at the chip. -/
inductive Transferring : Packet → Prop
  | dataWrite (data : List UInt8) (sendEoi : Bool) (timeoutCode : UInt8) :
      Transferring (.dataWrite data sendEoi timeoutCode)
  | dataRead (len : Nat) (eosMode : UInt16) (eosChar timeoutCode : UInt8) :
      Transferring (.dataRead len eosMode eosChar timeoutCode)
  | registerRead (regs : List (UInt8 × UInt8)) : Transferring (.registerRead regs)

variable {E : Type} {usb : UsbErrors E} {I J : Condition NiUsbHsBackend Packet}

theorem exchange_ends {packet : Packet} (h : ∀ c l, I c l → J c (packet :: l)) :
    Ends I (exchange usb packet) (fun _ => J) J := by
  unfold exchange
  exact (send_ends h).bind fun _ => usb_keeps

theorem exchange_keeps {A : Packet → Prop} (hI : Stable A I) {packet : Packet} (hA : A packet) :
    Keeps I (exchange usb packet) := exchange_ends fun c l => hI packet c l hA

theorem registerWrite_ends {regs : List NiRegister}
    (h : ∀ c l, I c l → J c (.registerWrite regs :: l)) :
    Ends I (registerWrite usb regs) (fun _ => J) J := by
  unfold registerWrite
  exact (exchange_ends h).bind fun _ => ofExcept_keeps

theorem registerRead_keeps {regs : List (UInt8 × UInt8)} (hI : Stable Transferring I) :
    Keeps I (registerRead usb regs) := by
  unfold registerRead
  exact (exchange_keeps hI (.registerRead regs)).bind fun _ => ofExcept_keeps

theorem commandTransfers_keeps_of {timeoutCode : UInt8} {fuel : Nat} {cmd : List UInt8}
    (hI : ∀ bytes c l, IsChunkOf cmd bytes → I c l → I c (.command bytes timeoutCode :: l)) :
    Keeps I (commandTransfers usb timeoutCode fuel cmd) := by
  induction fuel generalizing cmd with
  | zero => exact pure_keeps
  | succ fuel ih =>
    unfold commandTransfers
    split
    · rename_i hne
      refine (exchange_ends fun c l => hI _ c l (isChunkOf_take hne)).bind fun _ => ?_
      refine (context_ends ofExcept_keeps).bind fun _ => ?_
      -- a chunk of the rest is one of the whole
      exact ih fun bytes c l hchunk => hI bytes c l hchunk.of_drop
    · exact pure_keeps

theorem commandTransfers_keeps {timeoutCode : UInt8} {fuel : Nat} {cmd : List UInt8}
    (hI : Stable (Commanding cmd) I) : Keeps I (commandTransfers usb timeoutCode fuel cmd) :=
  commandTransfers_keeps_of fun _ c l hchunk => hI _ c l (.command timeoutCode hchunk)

/-- Few enough command bytes are one transfer. -/
theorem commandTransfers_one {timeoutCode : UInt8} {cmd : List UInt8} (hne : cmd ≠ [])
    (hshort : cmd.length ≤ maxCommandLen) (h : ∀ c l, I c l → J c (.command cmd timeoutCode :: l)) :
    Ends I (commandTransfers usb timeoutCode cmd.length cmd) (fun _ => J) J := by
  obtain ⟨fuel, hfuel⟩ := Nat.exists_eq_add_one.mpr (List.length_pos_iff.mpr hne)
  have hchunk : cmd.take maxCommandLen = cmd := List.take_of_length_le hshort
  have hrest : cmd.drop maxCommandLen = [] := List.drop_eq_nil_of_le hshort
  have hdone : Keeps J (commandTransfers usb timeoutCode fuel []) := by
    cases fuel with
    | zero => exact pure_keeps
    | succ _ => exact pure_keeps
  rw [hfuel, commandTransfers, if_pos hne, hchunk, hrest]
  refine (exchange_ends h).bind fun _ => ?_
  exact (context_ends ofExcept_keeps).bind fun _ => hdone

/-- Taking control is the first thing sent. -/
theorem sendCommandBounded_takes {cmd : List UInt8} {standbyAfter : Bool} {timeoutMs : Nat}
    (htake : ∀ c l, I c l → J c.forget (.takeControl :: l)) (hJ : Stable (Commanding cmd) J) :
    Ends I (sendCommandBounded usb cmd standbyAfter timeoutMs) (fun _ => J) J := by
  unfold sendCommandBounded
  refine (update_ends (K := fun c l => J c (.takeControl :: l)) htake).bind fun _ => ?_
  refine (exchange_ends fun _ _ => id).bind fun _ => ?_
  refine (commandTransfers_keeps hJ).bind fun _ => ?_
  split
  · exact (exchange_keeps hJ .goToStandby).then_pure
  · exact pure_keeps

theorem sendCommandBounded_ends {cmd : List UInt8} {standbyAfter : Bool} {timeoutMs : Nat}
    (hforget : ∀ c l, I c l → J c.forget l) (hJ : Stable (Commanding cmd) J) :
    Ends I (sendCommandBounded usb cmd standbyAfter timeoutMs) (fun _ => J) J :=
  sendCommandBounded_takes (fun c l h => hJ _ _ _ .takeControl (hforget c l h)) hJ

theorem sendCommandNow_ends {cmd : List UInt8} {standbyAfter : Bool}
    (hforget : ∀ c l, I c l → J c.forget l) (hJ : Stable (Commanding cmd) J) :
    Ends I (sendCommandNow usb cmd standbyAfter) (fun _ => J) J := by
  unfold sendCommandNow
  exact fields_bind_of_forall fun _ => sendCommandBounded_ends hforget hJ

theorem dataWrites_keeps_of {sendEoi : Bool} {timeoutCode : UInt8} {fuel : Nat}
    {remaining : List UInt8}
    (hI : ∀ bytes sendEoi c l, I c l → I c (.dataWrite bytes sendEoi timeoutCode :: l)) :
    Keeps I (dataWrites usb sendEoi timeoutCode fuel remaining) := by
  induction fuel generalizing remaining with
  | zero =>
    rw [dataWrites_eq]
    refine (exchange_ends (hI _ _)).bind fun _ => ?_
    refine (context_ends ofExcept_keeps).bind fun _ => ?_
    exact bailIf_keeps.then_pure
  | succ fuel ih =>
    rw [dataWrites_eq]
    refine (exchange_ends (hI _ _)).bind fun _ => ?_
    refine (context_ends ofExcept_keeps).bind fun _ => ?_
    refine bailIf_keeps.bind fun _ => ?_
    dsimp only
    split
    · exact pure_keeps
    · exact ih

theorem dataWrites_keeps {sendEoi : Bool} {timeoutCode : UInt8} {fuel : Nat} {remaining : List UInt8}
    (hI : Stable Transferring I) : Keeps I (dataWrites usb sendEoi timeoutCode fuel remaining) :=
  dataWrites_keeps_of fun bytes sendEoi c l => hI _ c l (.dataWrite bytes sendEoi timeoutCode)

theorem writeData_keeps {data : List UInt8} {sendEoi : Bool} (hI : Stable Transferring I) :
    Keeps I (writeData usb data sendEoi) := by
  unfold writeData
  exact fields_bind_of_forall fun _ => dataWrites_keeps hI

theorem readData_keeps {maxLen : Nat} (hI : Stable Transferring I) :
    Keeps I (readData usb maxLen) := by
  unfold readData
  refine fields_bind_of_forall fun c => ?_
  refine (exchange_keeps hI (.dataRead ..)).bind fun _ => ?_
  exact (context_ends ofExcept_keeps).then_pure

theorem controlTransfer_keeps {what : String} : Keeps I (controlTransfer usb what) := usb_keeps

theorem pollReady_keeps {left consecutiveErrors : Nat} :
    Keeps I (pollReady usb left consecutiveErrors) := by
  induction left generalizing consecutiveErrors with
  | zero => exact bail_ends fun _ _ => id
  | succ left ih =>
    unfold pollReady
    refine (Interruptible.Keeps.attempt controlTransfer_keeps).bind fun result => ?_
    cases result with
    | ok status =>
      dsimp only
      split
      · exact pure_keeps
      · exact ih
    | error e =>
      dsimp only
      split
      · exact bail_ends fun _ _ => id
      · exact ih

theorem waitForReady_keeps : Keeps I (waitForReady usb) := by
  unfold waitForReady
  exact (Interruptible.Keeps.attempt controlTransfer_keeps).bind fun _ => pollReady_keeps

theorem hsPlusExtraInit_keeps : Keeps I (hsPlusExtraInit usb) := by
  unfold hsPlusExtraInit
  refine fields_bind_of_forall fun c => ?_
  split
  · refine controlTransfer_keeps.bind fun _ => controlTransfer_keeps.bind fun _ => ?_
    exact controlTransfer_keeps.then_pure
  · exact pure_keeps

theorem setInterruptMonitor_keeps : Keeps I (setInterruptMonitor usb) := by
  unfold setInterruptMonitor
  exact (context_ends controlTransfer_keeps).bind fun _ => bailIf_keeps

theorem rearmSrq_ends {mask : UInt16} (h : ∀ c l, I c l → J c (.rearmSrq mask :: l)) :
    Ends I (rearmSrq usb mask) (fun _ => J) J := by
  unfold rearmSrq
  refine (send_ends h).bind fun _ => ?_
  exact controlTransfer_keeps.then_pure

namespace NiUsbHsBackend

/-- What a write sends for a controller at `own`. -/
inductive Writing (own pad : UInt8) : Packet → Prop
  | command {packet : Packet} : Commanding [gpibUnl, talkAddress own, listenAddress pad] packet →
      Writing own pad packet
  | data {packet : Packet} : Transferring packet → Writing own pad packet

theorem write_ends {own pad : UInt8} {data : List UInt8} {sendEoi : Bool}
    (hown : ∀ c l, I c l → c.myPad = own) (hrefused : ∀ c l, I c l → J c l)
    (hforget : ∀ c l, I c l → J c.forget l) (hJ : Stable (Writing own pad) J) :
    Ends I (write usb pad data sendEoi) (fun _ => J) J := by
  unfold write
  refine fields_bind_of_forall fun _ => ?_
  refine (bailIf_keeps.weaken_fail hrefused).bind fun _ => ?_
  refine fields_bind_of_forall fun _ => ?_
  refine (bailIf_keeps.weaken_fail hrefused).bind fun _ => ?_
  refine fields_bind fun c₃ => ?_
  have hcommand : Ends (fun c l => c = c₃ ∧ I c l) (sendCommandNow usb
      [gpibUnl, talkAddress c₃.myPad, listenAddress pad] true) (fun _ => J) J := by
    intro port hport
    obtain ⟨hc, hI⟩ := hport
    have hpad : c₃.myPad = own := hc ▸ hown _ _ hI
    rw [hpad]
    exact sendCommandNow_ends hforget (fun packet c l h => hJ packet c l (.command h)) port hI
  exact hcommand.bind fun _ => writeData_keeps fun packet c l h => hJ packet c l (.data h)

/-- What a read sends for a controller at `own`. -/
inductive Reading (own pad : UInt8) : Packet → Prop
  | command {packet : Packet} (talker : Option UInt8) : talker = none ∨ talker = some pad →
      Commanding (ReadAddressing.bytes ⟨talker, own⟩) packet → Reading own pad packet
  | data {packet : Packet} : Transferring packet → Reading own pad packet

theorem read_ends {own pad : UInt8} {maxLen : Nat} (hown : ∀ c l, I c l → c.myPad = own)
    (hstart : ∀ c l, I c l → J c l)
    (hcache : ∀ c l readAddressing, J c l → J { c with readAddressing } l)
    (hJ : Stable (Reading own pad) J) : Ends I (read usb pad maxLen) (fun _ => J) J := by
  have hdata : Keeps J (readData usb maxLen) := readData_keeps fun packet c l h => hJ packet c l (.data h)
  unfold read
  refine fields_bind fun c => ?_
  split
  · exact hdata.weaken_pre fun c l h => hstart c l h.2
  · have haddress : Ends (fun c' l => c' = c ∧ I c' l) (addressRead usb (c.wantedAddressing pad))
        (fun _ => J) J := by
      intro port hport
      obtain ⟨hc, hI⟩ := hport
      have hpad : c.myPad = own := hc ▸ hown _ _ hI
      have hkeeps : Keeps J (addressRead usb (c.wantedAddressing pad)) := by
        unfold addressRead
        refine fields_bind_of_forall fun _ => ?_
        split
        · have hcommand : Keeps J (sendCommandNow usb (c.wantedAddressing pad).bytes true) := by
            refine sendCommandNow_ends (fun c l => hcache c l none) fun packet c' l h => ?_
            refine hJ packet c' l (.command (if c.listenOnly then none else some pad) ?_ ?_)
            · cases c.listenOnly with
              | true => exact .inl rfl
              | false => exact .inr rfl
            · rw [← hpad]
              exact h
          exact hcommand.bind fun _ => update_ends fun c l => hcache c l _
        · exact pure_keeps
      exact hkeeps port (hstart _ _ hI)
    exact haddress.bind fun _ => hdata

theorem takeHeldByte_keeps (hI : Stable Transferring I) : Keeps I (takeHeldByte usb) := by
  unfold takeHeldByte
  exact (registerRead_keeps hI).then_pure

theorem takeStatusByte_keeps (hI : Stable Transferring I) {looks : Nat} :
    Keeps I (takeStatusByte usb looks) := by
  induction looks with
  | zero =>
    unfold takeStatusByte
    refine (context_ends (takeHeldByte_keeps hI)).bind fun held => ?_
    cases held with
    | none => exact bail_ends fun _ _ => id
    | some byte => exact pure_keeps
  | succ looks ih =>
    unfold takeStatusByte
    refine (context_ends (takeHeldByte_keeps hI)).bind fun held => ?_
    cases held with
    | none => exact ih
    | some byte => exact pure_keeps

/-- What a serial poll sends for a controller at `own`. -/
inductive Polling (own pad : UInt8) : Packet → Prop
  | enable {packet : Packet} :
      Commanding [gpibUnl, gpibSpe, talkAddress pad, listenAddress own] packet → Polling own pad packet
  | acceptor (regs : List NiRegister) :
      (∀ r ∈ regs, r.device = subdevTnt4882 ∧ (r.address = regAuxmr ∧ r.value = auxFh ∨
        r.address = regCmdr ∧ (r.value = cmdrGo ∨ r.value = cmdrStop))) →
      Polling own pad (.registerWrite regs)
  | look {packet : Packet} : Transferring packet → Polling own pad packet
  | disable {packet : Packet} : Commanding [gpibSpd, gpibUnt] packet → Polling own pad packet
  | rearm (mask : UInt16) : Polling own pad (.rearmSrq mask)

theorem serialPoll_ends {own pad : UInt8} {looks : Nat} (hown : ∀ c l, I c l → c.myPad = own)
    (hforget : ∀ c l, I c l → J c.forget l) (hforget' : ∀ c l, J c l → J c.forget l)
    (hJ : Stable (Polling own pad) J) : Ends I (serialPoll usb pad looks) (fun _ => J) J := by
  unfold serialPoll
  refine fields_bind fun c₁ => ?_
  have hcommand : Ends (fun c l => c = c₁ ∧ I c l) (sendCommandNow usb
      [gpibUnl, gpibSpe, talkAddress pad, listenAddress c₁.myPad] false) (fun _ => J) J := by
    intro port hport
    obtain ⟨hc, hI⟩ := hport
    have hpad : c₁.myPad = own := hc ▸ hown _ _ hI
    rw [hpad]
    exact sendCommandNow_ends hforget (fun packet c l h => hJ packet c l (.enable h)) port hI
  refine hcommand.bind fun _ => ?_
  have hready : Keeps J (readyAcceptor usb) :=
    context_ends (registerWrite_ends fun c l => hJ _ c l (.acceptor _ (by decide)))
  refine hready.bind fun _ => ?_
  have hpolled : Keeps J (do
      let _ ← exchange usb .goToStandby
      takeStatusByte usb looks) :=
    (exchange_keeps hJ (.enable .goToStandby)).bind fun _ =>
      takeStatusByte_keeps fun packet c l h => hJ packet c l (.look h)
  refine (Interruptible.Keeps.attempt hpolled).bind fun polled => ?_
  have hrestore : Keeps J (restoreAcceptor usb) :=
    context_ends (registerWrite_ends fun c l => hJ _ c l (.acceptor _ (by decide)))
  refine (Interruptible.Keeps.attempt hrestore).bind fun stopped => ?_
  have hdisable : Keeps J (sendCommandNow usb [gpibSpd, gpibUnt] false) :=
    sendCommandNow_ends hforget' fun packet c l h => hJ packet c l (.disable h)
  refine (Interruptible.Keeps.attempt hdisable).bind fun disabled => ?_
  have hrearm : Keeps J (rearmSrq usb ibstaSrqi) := rearmSrq_ends fun c l => hJ _ c l (.rearm _)
  refine (Interruptible.Keeps.attempt hrearm).bind fun _ => ?_
  refine ofExcept_keeps.bind fun stb => ?_
  refine (context_ends ofExcept_keeps).bind fun _ => ?_
  exact (context_ends ofExcept_keeps).then_pure

/-- What bringing the controller up at `myPad` sends once its registers are written. -/
inductive BringingUp (myPad : UInt8) : Packet → Prop
  | interfaceClear : BringingUp myPad .interfaceClear
  | ren : BringingUp myPad (.registerWrite [⟨subdevTnt4882, regAuxmr, auxSren⟩])
  | address {packet : Packet} : Commanding [gpibUnl, talkAddress myPad] packet →
      BringingUp myPad packet
  | priming (timeoutCode : UInt8) : BringingUp myPad (.dataWrite [0x00] false timeoutCode)

/-- `J` holds until the registers are written, `K` from then on. -/
theorem init_ends {K : Condition NiUsbHsBackend Packet} {myPad : UInt8}
    (hstart : ∀ c l, I c l → J { c with myPad, readAddressing := none } l)
    (hsetup : ∀ eosMode c l, J c l → K c (.registerWrite (setupInit myPad eosMode) :: l))
    (hforget : ∀ c l, K c l → K c.forget l) (hK : Stable (BringingUp myPad) K) :
    Ends I (init usb myPad) (fun _ => K) (fun c l => J c l ∨ K c l) := by
  unfold init
  refine (update_ends hstart).bind fun _ => ?_
  refine (waitForReady_keeps.weaken_fail fun _ _ => Or.inl).bind
    fun _ => ?_
  refine (hsPlusExtraInit_keeps.weaken_fail fun _ _ => Or.inl).bind
    fun _ => ?_
  refine fields_bind_of_forall fun c => ?_
  have hregisters : Ends J (registerWrite usb (setupInit myPad c.eosMode)) (fun _ => K)
      (fun c l => J c l ∨ K c l) :=
    (registerWrite_ends (hsetup _)).weaken_fail fun _ _ => Or.inr
  refine (context_ends hregisters).bind fun _ => ?_
  have hifc : Keeps K (ifc usb) := by
    unfold ifc
    refine (update_ends hforget).bind fun _ => ?_
    exact (exchange_keeps hK .interfaceClear).then_pure
  have hrest : Keeps K (do
      (ifc usb).context "ni init: interface clear"
      (ren usb true).context "ni init: assert REN"
      let _ ← Interruptible.attempt (sendCommandBounded usb [gpibUnl, talkAddress myPad] false 100)
      let _ ← Interruptible.attempt (exchange usb (.dataWrite [0x00] false (timeoutCodeFloor 10)))
      setInterruptMonitor usb) := by
    refine (context_ends hifc).bind fun _ => ?_
    refine (context_ends (registerWrite_ends fun c l h => hK _ c l .ren h)).bind fun _ => ?_
    have haddress : Keeps K (sendCommandBounded usb [gpibUnl, talkAddress myPad] false 100) :=
      sendCommandBounded_ends hforget fun packet c l h => hK packet c l (.address h)
    refine (Interruptible.Keeps.attempt haddress).bind fun _ => ?_
    refine (Interruptible.Keeps.attempt (exchange_keeps hK (.priming _))).bind fun _ => ?_
    exact setInterruptMonitor_keeps
  exact hrest.weaken_fail fun _ _ => Or.inr

end NiUsbHsBackend
end Ugpibd.Backend.NiUsbHs
