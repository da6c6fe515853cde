import Ugpibd.Backend.NiSteps
import Ugpibd.Library.BigEndian

/-! The bytes of the requests to the NI adapter, and what the adapter reads in those that carry the
data of a write. -/
namespace Ugpibd.Backend.NiUsbHs
open Library Operation
open Ni (termination niusbDataReadOp niusbRegReadId)

def auxClearEnd : UInt8 := 0x55

/-- Zeros up to the next 4-byte boundary. -/
def padTo4 (buf : List UInt8) : List UInt8 :=
  if buf.length % 4 ≠ 0 then padTo4 (buf ++ [0]) else buf
termination_by (4 - buf.length % 4) % 4
decreasing_by
  rw [List.length_append, List.length_singleton]
  omega

def encodeRegisterWrite (writes : List NiRegister) : List UInt8 :=
  padTo4 ([niusbRegWriteId, .ofNat writes.length, 0] ++
    writes.flatMap fun r => [r.device, r.address, r.value]) ++ termination

def encodeRegisterRead (reads : List (UInt8 × UInt8)) : List UInt8 :=
  padTo4 ([niusbRegReadId, .ofNat reads.length] ++ reads.flatMap fun r => [r.1, r.2]) ++ termination

def encodeCommand (cmd : List UInt8) (timeoutCode : UInt8) : List UInt8 :=
  padTo4 ([niusbCommandOp, ~~~(.ofNat cmd.length - 1), 0, timeoutCode] ++ cmd) ++ termination

/-- The field a transfer's length travels in. -/
def complement (len : Nat) : UInt16 := ~~~(.ofNat len - 1)

def encodeDataWrite (data : List UInt8) (sendEoi : Bool) (timeoutCode : UInt8) : List UInt8 :=
  padTo4 ([niusbDataWriteOp, (complement data.length &&& 0xff).toUInt8,
    (complement data.length >>> 8).toUInt8, timeoutCode, 0, 0, if sendEoi then 0x08 else 0, 0] ++
    data) ++ termination

/-- The register write behind the read runs after the transfer. -/
def encodeDataReadWithAux (len : Nat) (eosMode : UInt16) (eosChar timeoutCode : UInt8)
    (aux : List UInt8) : List UInt8 :=
  padTo4 ([niusbDataReadOp, (eosMode >>> 8).toUInt8, eosChar, timeoutCode,
    (complement len &&& 0xff).toUInt8, (complement len >>> 8).toUInt8, 0, 0,
    niusbRegWriteId, .ofNat aux.length, 0] ++
    aux.flatMap fun cmd => [subdevTnt4882, regAuxmr, cmd]) ++ termination

def encodeDataRead (len : Nat) (eosMode : UInt16) (eosChar timeoutCode : UInt8) : List UInt8 :=
  encodeDataReadWithAux len eosMode eosChar timeoutCode [auxClearEnd]

def encodeSimpleOp (id arg : UInt8) : List UInt8 := [id, arg, 0, 0] ++ termination

def encodeTakeControl (synchronous : Bool) : List UInt8 :=
  encodeSimpleOp niusbIbcacId (if synchronous then 1 else 0)

def encodeGoToStandby : List UInt8 := encodeSimpleOp niusbIbgtsId 0
def encodeInterfaceClear : List UInt8 := encodeSimpleOp niusbIbsicId 0

/-- What goes over the bulk pipe. The service-request monitor is armed by a control transfer. -/
def Packet.encode : Packet → List UInt8
  | .takeControl => encodeTakeControl true
  | .goToStandby => encodeGoToStandby
  | .interfaceClear => encodeInterfaceClear
  | .command bytes timeoutCode => encodeCommand bytes timeoutCode
  | .dataWrite data sendEoi timeoutCode => encodeDataWrite data sendEoi timeoutCode
  | .dataRead len eosMode eosChar timeoutCode => encodeDataRead len eosMode eosChar timeoutCode
  | .registerWrite regs => encodeRegisterWrite regs
  | .registerRead regs => encodeRegisterRead regs
  | .rearmSrq _ => []

/-- How many bytes a data write has for the adapter. -/
def decodeLen (packet : List UInt8) : Nat :=
  (~~~((packet.getD 1 0).toUInt16 ||| (packet.getD 2 0).toUInt16 <<< 8) + 1).toNat

/-- The bytes the adapter puts on the bus. -/
def decodeData (packet : List UInt8) : List UInt8 := (packet.drop 8).take (decodeLen packet)

/-- Does the adapter assert EOI with the last of them? -/
def decodeEoi (packet : List UInt8) : Bool := packet.getD 6 0 &&& 0x08 != 0

theorem padTo4_eq (buf : List UInt8) : ∃ zeros, padTo4 buf = buf ++ zeros := by
  fun_induction padTo4 buf with
  | case1 buf _ ih =>
    obtain ⟨zeros, h⟩ := ih
    exact ⟨0 :: zeros, by rw [h, List.append_assoc]; rfl⟩
  | case2 buf _ => exact ⟨[], (List.append_nil buf).symm⟩

theorem padTo4_length (buf : List UInt8) : 4 ∣ (padTo4 buf).length := by
  fun_induction padTo4 buf with
  | case1 _ _ ih => exact ih
  | case2 _ h => exact Nat.dvd_of_mod_eq_zero (not_not.mp h)

/-- A request is whole words and ends in a termination block. -/
structure Framed (bytes : List UInt8) : Prop where
  words : 4 ∣ bytes.length
  terminated : termination <:+ bytes

theorem framed_padTo4 (buf : List UInt8) : Framed (padTo4 buf ++ termination) where
  words := by
    rw [List.length_append]
    exact Nat.dvd_add (padTo4_length buf) (Nat.dvd_refl 4)
  terminated := List.suffix_append _ _

theorem framed_simpleOp (id arg : UInt8) : Framed (encodeSimpleOp id arg) :=
  ⟨⟨2, rfl⟩, List.suffix_append _ _⟩

/-- Every request over the bulk pipe is framed. -/
theorem Packet.framed (packet : Packet) (h : ∀ mask, packet ≠ .rearmSrq mask) :
    Framed packet.encode := by
  cases packet with
  | takeControl | goToStandby | interfaceClear => exact framed_simpleOp _ _
  | command | dataWrite | dataRead | registerWrite | registerRead => exact framed_padTo4 _
  | rearmSrq mask => exact absurd rfl (h mask)

theorem complement_bytes (word : UInt16) :
    (word &&& 0xff).toUInt8.toUInt16 ||| (word >>> 8).toUInt8.toUInt16 <<< 8 = word := by
  have hlow : (word &&& 0xff).toUInt8 = word.toUInt8 := by
    refine UInt8.toNat_inj.mp ?_
    rw [UInt16.toNat_toUInt8, UInt16.toNat_toUInt8, UInt16.toNat_and]
    have hmask : word.toNat &&& (255 : UInt16).toNat = word.toNat % 2 ^ 8 :=
      Nat.and_two_pow_sub_one_eq_mod word.toNat 8
    rw [hmask, Nat.mod_mod]
  rw [hlow, UInt16.or_comm, uint16_bytes]

section dataWrite
variable {data : List UInt8} {sendEoi : Bool} {timeoutCode : UInt8}

theorem encodeDataWrite_eq (data : List UInt8) (sendEoi : Bool) (timeoutCode : UInt8) :
    ∃ rest, encodeDataWrite data sendEoi timeoutCode =
      [niusbDataWriteOp, (complement data.length &&& 0xff).toUInt8,
        (complement data.length >>> 8).toUInt8, timeoutCode, 0, 0, if sendEoi then 0x08 else 0, 0] ++
      (data ++ rest) := by
  obtain ⟨zeros, h⟩ := padTo4_eq ([niusbDataWriteOp, (complement data.length &&& 0xff).toUInt8,
    (complement data.length >>> 8).toUInt8, timeoutCode, 0, 0, if sendEoi then 0x08 else 0, 0] ++ data)
  exact ⟨zeros ++ termination, by rw [encodeDataWrite, h]; simp only [List.append_assoc]⟩

/-- The adapter reads back what the field can express. -/
theorem decodeLen_encodeDataWrite (h : data.length ≤ maxTransferLen) :
    decodeLen (encodeDataWrite data sendEoi timeoutCode) = data.length := by
  obtain ⟨rest, hbytes⟩ := encodeDataWrite_eq data sendEoi timeoutCode
  rw [hbytes]
  simp only [decodeLen, List.cons_append, List.getD_cons_zero, List.getD_cons_succ,
    complement_bytes]
  rw [complement, UInt16.not_not, UInt16.sub_add_cancel]
  exact UInt16.toNat_ofNat_of_lt' (Nat.lt_succ_of_le h)

theorem decodeData_encodeDataWrite (h : data.length ≤ maxTransferLen) :
    decodeData (encodeDataWrite data sendEoi timeoutCode) = data := by
  rw [decodeData, decodeLen_encodeDataWrite h]
  obtain ⟨rest, hbytes⟩ := encodeDataWrite_eq data sendEoi timeoutCode
  rw [hbytes]
  exact List.take_left

theorem decodeEoi_encodeDataWrite :
    decodeEoi (encodeDataWrite data sendEoi timeoutCode) = sendEoi := by
  obtain ⟨rest, hbytes⟩ := encodeDataWrite_eq data sendEoi timeoutCode
  rw [hbytes]
  simp only [decodeEoi, List.cons_append, List.getD_cons_zero, List.getD_cons_succ]
  cases sendEoi <;> decide

end dataWrite

/-- The requests that carry these data: whole transfers without EOI, and the last. -/
def dataPackets (sendEoi : Bool) (timeoutCode : UInt8) (data : List UInt8) : List Packet :=
  if data.length ≤ maxTransferLen then [.dataWrite data sendEoi timeoutCode]
  else .dataWrite (data.take maxTransferLen) false timeoutCode ::
    dataPackets sendEoi timeoutCode (data.drop maxTransferLen)
termination_by data.length
decreasing_by
  rw [List.length_drop, maxTransferLen]
  omega

/-- What the adapter makes of the requests of one write. -/
structure Carries (sendEoi : Bool) (data : List UInt8) (packets : List Packet) : Prop where
  decoded : (packets.flatMap fun packet => decodeData packet.encode) = data
  framed : ∀ packet ∈ packets, Framed packet.encode
  fits : ∀ packet ∈ packets, (decodeData packet.encode).length ≤ 65535
  eoi : packets.map (fun packet => decodeEoi packet.encode) =
    List.replicate (packets.length - 1) false ++ [sendEoi]

theorem dataPackets_carries (sendEoi : Bool) (timeoutCode : UInt8) (data : List UInt8) :
    Carries sendEoi data (dataPackets sendEoi timeoutCode data) := by
  fun_induction dataPackets sendEoi timeoutCode data with
  | case1 data hlen =>
    have hdata : decodeData (Packet.dataWrite data sendEoi timeoutCode).encode = data :=
      decodeData_encodeDataWrite hlen
    refine ⟨?_, ?_, ?_, ?_⟩
    · rw [List.flatMap_singleton, hdata]
    · exact List.forall_mem_singleton.mpr (framed_padTo4 _)
    · rw [List.forall_mem_singleton, hdata]
      exact hlen
    · exact congrArg (fun eoi => [eoi]) decodeEoi_encodeDataWrite
  | case2 data hlen ih =>
    have hchunk : (data.take maxTransferLen).length ≤ maxTransferLen := List.length_take_le _ _
    have hdata : decodeData (Packet.dataWrite (data.take maxTransferLen) false timeoutCode).encode =
        data.take maxTransferLen := decodeData_encodeDataWrite hchunk
    have hne : 0 < (dataPackets sendEoi timeoutCode (data.drop maxTransferLen)).length := by
      rw [dataPackets]
      split <;> simp
    refine ⟨?_, ?_, ?_, ?_⟩
    · rw [List.flatMap_cons, hdata, ih.decoded, List.take_append_drop]
    · exact List.forall_mem_cons.mpr ⟨framed_padTo4 _, ih.framed⟩
    · rw [List.forall_mem_cons, hdata]
      exact ⟨hchunk, ih.fits⟩
    · obtain ⟨n, hn⟩ := Nat.exists_eq_add_one.mpr hne
      have heoi : decodeEoi (Packet.dataWrite (data.take maxTransferLen) false timeoutCode).encode =
          false := decodeEoi_encodeDataWrite
      rw [List.map_cons, heoi, ih.eoi, List.length_cons, hn]
      rfl

variable {E : Type} {usb : UsbErrors E} {sendEoi : Bool} {timeoutCode : UInt8} {data : List UInt8}
  {before : List Packet}

/-- One transfer: its request is sent, and what follows goes on from there. -/
theorem dataWrite_sends {packet : Packet} {n : Nat} {text : Nat → Text} {p : Op E Unit}
    {Q : Unit → Condition NiUsbHsBackend Packet} {J : Condition NiUsbHsBackend Packet}
    (hJ : ∀ c, J c (packet :: before))
    (hp : Ends (fun _ l => l = packet :: before) p Q J) :
    Ends (fun _ l => l = before) (do
      let resp ← exchange usb packet
      let written ← (ofExcept (·.text) (parseWriteResponse resp n)).context "ni data write"
      bailIf (written ≠ n) (text written)
      p) Q J := by
  have hfail : ∀ c l, l = packet :: before → J c l := by
    rintro c _ rfl
    exact hJ c
  refine ((exchange_ends (J := fun _ l => l = packet :: before) ?_).weaken_fail hfail).bind
    fun _ => ?_
  · rintro c _ rfl
    rfl
  refine ((context_ends ofExcept_keeps).weaken_fail hfail).bind fun _ => ?_
  exact (bailIf_keeps.weaken_fail hfail).bind fun _ => hp

/-- The loop sends the requests in order, and all of them when it returns. -/
theorem dataWrites_sends {fuel : Nat} (hfuel : data.length ≤ fuel) :
    Ends (fun _ l => l = before) (dataWrites usb sendEoi timeoutCode fuel data)
      (fun _ _ l => l = (dataPackets sendEoi timeoutCode data).reverse ++ before)
      (fun _ l => ∃ done, done <+: dataPackets sendEoi timeoutCode data ∧
        l = done.reverse ++ before) := by
  induction fuel generalizing data before with
  | zero =>
    obtain rfl : data = [] := List.eq_nil_of_length_eq_zero (Nat.le_zero.mp hfuel)
    rw [dataWrites_eq]
    unfold dataPackets
    rw [if_pos (Nat.le_trans hfuel (Nat.zero_le _))]
    dsimp only
    rw [List.take_nil, List.drop_nil, List.isEmpty_nil, Bool.and_true]
    exact dataWrite_sends (fun c => ⟨_, List.prefix_rfl, rfl⟩) pure_keeps
  | succ fuel ih =>
    rw [dataWrites_eq]
    unfold dataPackets
    by_cases hlast : data.length ≤ maxTransferLen
    · have hchunk : data.take maxTransferLen = data := List.take_of_length_le hlast
      have hrest : data.drop maxTransferLen = [] := List.drop_eq_nil_of_le hlast
      rw [if_pos hlast]
      dsimp only
      rw [hchunk, hrest, List.isEmpty_nil, Bool.and_true, if_pos rfl]
      exact dataWrite_sends (fun c => ⟨_, List.prefix_rfl, rfl⟩) pure_keeps
    · have hrest : (data.drop maxTransferLen).isEmpty = false := by
        rw [List.isEmpty_eq_false_iff, ← List.length_pos_iff, List.length_drop]
        omega
      have hless : (data.drop maxTransferLen).length ≤ fuel := by
        rw [List.length_drop, maxTransferLen]
        omega
      rw [if_neg hlast]
      dsimp only
      rw [hrest, Bool.and_false, if_neg Bool.false_ne_true]
      refine dataWrite_sends (fun c => ⟨[_], by simp, rfl⟩) ?_
      refine (ih hless).weaken (fun _ _ => id) ?_ ?_
      · rintro _ c l rfl
        simp
      · rintro c l ⟨done, hdone, rfl⟩
        exact ⟨_ :: done, List.cons_prefix_cons.mpr ⟨rfl, hdone⟩, by simp⟩

/-- Read back by the adapter, the requests a write sends for its data are the data. They are sent in
order, and all of them unless the write fails or is dropped. -/
theorem writeData_packets (usb : UsbErrors E) (port : Port NiUsbHsBackend Packet E)
    (data : List UInt8) (sendEoi : Bool) :
    ∃ packets, Carries sendEoi data packets ∧
      (sentBy (writeData usb data sendEoi) port).reverse <+: packets ∧
      (((writeData usb data sendEoi).exec port).1 = some (.ok ()) →
        (sentBy (writeData usb data sendEoi) port).reverse = packets) := by
  refine ⟨_, dataPackets_carries sendEoi (timeoutCodeFloor port.ctrl.timeoutMs) data, ?_⟩
  have hsends : Ends (fun c l => c = port.ctrl ∧ l = port.sent) (writeData usb data sendEoi) _ _ :=
    fields_bind_of_eq (fun _ _ => And.left)
      (dataWrites_sends le_rfl |>.weaken_pre fun _ _ => And.right)
  have hleaves := hsends port ⟨rfl, rfl⟩
  constructor
  · obtain ⟨done, hdone, hsent⟩ :=
      (hleaves.imp (fun _ _ h => ⟨_, List.prefix_rfl, h⟩) fun _ => id).state
    rw [sentBy_eq hsent, List.reverse_reverse]
    exact hdone
  · intro hok
    have hsent := hleaves.returned hok
    rw [sentBy_eq hsent, List.reverse_reverse]

/-- A write of one byte that the adapter reports as done. -/
theorem writeData_packets_one :
    let port : Port NiUsbHsBackend Packet Unit :=
      ⟨{ timeoutMs := 3000 }, [.completed [], .completed [niusbDataWriteOp, 0, 0, 0, 0, 0, 0, 0]], []⟩
    ((writeData oneError [0x41] true).exec port).1 = some (.ok ()) ∧
      Carries true [0x41] (sentBy (writeData oneError [0x41] true) port).reverse := by
  intro port
  have hok : ((writeData oneError [0x41] true).exec port).1 = some (.ok ()) := by rfl
  obtain ⟨packets, hcarries, -, hall⟩ := writeData_packets oneError port [0x41] true
  rw [hall hok]
  exact ⟨hok, hcarries⟩

end Ugpibd.Backend.NiUsbHs
