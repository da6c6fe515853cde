import Mathlib.Logic.Function.Basic
import Ugpibd.Backend.AgilentFirmware

/-! Loading an adapter with its firmware. The processor is held in reset while the records are written
and released when all of them are. Any of the control transfers may fail, and the adapter may have
carried out one that is reported as failed. -/
namespace Ugpibd.Backend.Agilent
open Library

/-- The chip that is loaded: its memory, and whether its processor is held in reset. -/
structure EzUsb where
  ram : UInt16 → UInt8
  held : Bool

/-- How a control transfer ends. -/
inductive TransferEnd
  | done
  | failed (carriedOut : Bool)
  deriving DecidableEq, Repr

inductive UploadFailure
  | notUtf8
  | parse (cause : HexFailure)
  | hold
  | record (address : UInt16)
  | release
  deriving DecidableEq, Repr

/-- The context an upload adds to its failure. -/
def UploadFailure.context : UploadFailure → List Char
  | .notUtf8 => "firmware blob is not valid UTF-8".toList
  | .parse _ => "failed to parse firmware HEX".toList
  | .hold => "failed to hold 8051 in reset".toList
  | .record address => "failed to write firmware record at 0x".toList ++
      (Nat.toDigits 16 address.toNat).leftpad 4 '0'
  | .release => "failed to release 8051 from reset".toList

/-- A vendor request with the failure it is reported as. -/
structure Transfer where
  failure : UploadFailure
  address : UInt16
  data : List UInt8
  deriving DecidableEq, Repr

section
variable (cpucs : UInt16)

/-- A byte arrives: at the address of the control register it holds the processor or lets it run. -/
def EzUsb.store (chip : EzUsb) (address : UInt16) (byte : UInt8) : EzUsb :=
  if address = cpucs then { chip with held := byte &&& 1 = 1 }
  else { chip with ram := Function.update chip.ram address byte }

def EzUsb.load (chip : EzUsb) (address : UInt16) : List UInt8 → EzUsb
  | [] => chip
  | byte :: data => (chip.store cpucs address byte).load (address + 1) data

def HexRecord.transfer (record : HexRecord) : Transfer :=
  ⟨.record record.address, record.address, record.data⟩

/-- The transfers of an upload, in their order. -/
def plan (records : List HexRecord) : List Transfer :=
  ⟨.hold, cpucs, [0x01]⟩ :: (records.map HexRecord.transfer ++ [⟨.release, cpucs, [0x00]⟩])

/-- Transfers up to the first that fails, and the chip after each of them. -/
def anchorLoad (answers : Nat → TransferEnd) (chip : EzUsb) :
    List Transfer → Except UploadFailure Unit × List EzUsb
  | [] => (.ok (), [])
  | transfer :: rest =>
    let loaded := chip.load cpucs transfer.address transfer.data
    match answers 0 with
    | .done =>
      let (result, later) := anchorLoad (fun n => answers (n + 1)) loaded rest
      (result, loaded :: later)
    | .failed carriedOut => (.error transfer.failure, [if carriedOut then loaded else chip])

/-- The blob is given as the text it is, if it is one. -/
def uploadFirmware (firmware : Option Str) (answers : Nat → TransferEnd) (chip : EzUsb) :
    MayPanic UploadFailure Unit × List EzUsb :=
  match firmware with
  | none => (.error (.error .notUtf8), [])
  | some text => match parseHex text with
    | .error stop => (.error (stop.map .parse), [])
    | .ok records =>
      let (result, states) := anchorLoad cpucs answers chip (plan cpucs records)
      (reported result, states)

end

/-- The byte a record has for an address. -/
def HexRecord.byteAt (record : HexRecord) (address : UInt16) : Option UInt8 :=
  record.data[(address - record.address).toNat]?

/-- What the records make of a memory: each byte is that of the last record that has one for it. -/
def imageOf (records : List HexRecord) (ram : UInt16 → UInt8) (address : UInt16) : UInt8 :=
  (records.reverse.findSome? (·.byteAt address)).getD (ram address)

variable {cpucs address a : UInt16} {data : List UInt8} {chip : EzUsb} {records : List HexRecord}
  {answers : Nat → TransferEnd}

theorem toNat_sub_succ (h : a ≠ address) : (a - address).toNat = (a - (address + 1)).toNat + 1 := by
  have hne : a.toNat ≠ address.toNat := fun heq => h (UInt16.toNat_inj.mp heq)
  have ha := a.toNat_lt
  have haddress := address.toNat_lt
  rw [UInt16.toNat_sub, UInt16.toNat_sub, UInt16.toNat_add]
  change _ = (2 ^ 16 - (address.toNat + 1) % 2 ^ 16 + a.toNat) % 2 ^ 16 + 1
  omega

theorem toNat_sub_succ_self : (address - (address + 1)).toNat = 65535 := by
  have haddress := address.toNat_lt
  rw [UInt16.toNat_sub, UInt16.toNat_add]
  change (2 ^ 16 - (address.toNat + 1) % 2 ^ 16 + address.toNat) % 2 ^ 16 = 65535
  omega

/-- A transfer that stays clear of the control register changes the memory and nothing else. -/
theorem load_eq (chip : EzUsb) (hlength : data.length ≤ 65535)
    (hclear : data[(cpucs - address).toNat]? = none) :
    (chip.load cpucs address data).held = chip.held ∧
      ∀ a, (chip.load cpucs address data).ram a =
        (data[(a - address).toNat]?).getD (chip.ram a) := by
  induction data generalizing chip address with
  | nil => exact ⟨rfl, fun _ => rfl⟩
  | cons byte data ih =>
    have hne : cpucs ≠ address := by
      rintro rfl
      rw [UInt16.sub_self] at hclear
      cases hclear
    rw [toNat_sub_succ hne, List.getElem?_cons_succ] at hclear
    have hstore : chip.store cpucs address byte =
        { chip with ram := Function.update chip.ram address byte } := if_neg hne.symm
    obtain ⟨hheld, hram⟩ := ih (chip.store cpucs address byte) (Nat.le_of_succ_le hlength) hclear
    rw [hstore] at hheld hram
    refine ⟨(congrArg (fun p => (p.load cpucs (address + 1) data).held) hstore).trans hheld,
      fun a => ?_⟩
    rw [EzUsb.load, hstore, hram]
    by_cases ha : a = address
    · -- the rest of the data does not come around to the address again
      subst ha
      rw [toNat_sub_succ_self, List.getElem?_eq_none (Nat.le_of_succ_le hlength)]
      simp
    · rw [toNat_sub_succ ha, List.getElem?_cons_succ]
      exact congrArg (Option.getD _) (Function.update_of_ne ha ..)

theorem imageOf_cons (record : HexRecord) (records : List HexRecord) (ram : UInt16 → UInt8) :
    imageOf (record :: records) ram = imageOf records (imageOf [record] ram) := by
  funext a
  simp only [imageOf, List.reverse_cons, List.findSome?_append, List.reverse_nil, List.nil_append]
  cases records.reverse.findSome? (·.byteAt a) <;> rfl

/-- A record that stays clear of the control register and fits a transfer. -/
structure HexRecord.Plain (cpucs : UInt16) (record : HexRecord) : Prop where
  clear : record.byteAt cpucs = none
  fits : record.data.length ≤ 255

theorem HexRecord.Plain.load {record : HexRecord} (h : record.Plain cpucs) (chip : EzUsb) :
    (chip.load cpucs record.address record.data).held = chip.held ∧
      (chip.load cpucs record.address record.data).ram = imageOf [record] chip.ram := by
  obtain ⟨hheld, hram⟩ := load_eq chip (h.fits.trans (by decide)) h.clear
  refine ⟨hheld, funext fun a => (hram a).trans ?_⟩
  simp [imageOf, HexRecord.byteAt]

/-- The records are written and the processor is released: while it is held nothing runs, and when it
runs all of them are in the memory. -/
theorem anchorLoad_records (hplain : ∀ record ∈ records, record.Plain cpucs)
    (hheld : chip.held = true) {result : Except UploadFailure Unit} {states : List EzUsb}
    (hrun : anchorLoad cpucs answers chip (records.map HexRecord.transfer ++
      [⟨.release, cpucs, [0x00]⟩]) = (result, states)) :
    (∀ p ∈ states, p.held = false → p.ram = imageOf records chip.ram) ∧
    (result = .ok () → ∃ p, states.getLast? = some p ∧ p.held = false) := by
  induction records generalizing chip answers result states with
  | nil =>
    have hreleased : chip.load cpucs cpucs [0x00] = { chip with held := false } :=
      (if_pos rfl).trans rfl
    simp only [List.map_nil, List.nil_append, anchorLoad, hreleased] at hrun
    split at hrun <;> cases hrun
    · refine ⟨fun p hp _ => ?_, fun _ => ⟨_, rfl, rfl⟩⟩
      rw [List.mem_singleton.mp hp]
      rfl
    · refine ⟨fun p hp hfree => ?_, fun hok => by cases hok⟩
      rename_i carriedOut _
      obtain rfl := List.mem_singleton.mp hp
      cases carriedOut with
      | true => rfl
      | false => cases hheld.symm.trans hfree
  | cons record records ih =>
    rw [List.forall_mem_cons] at hplain
    obtain ⟨hkept, hram⟩ := hplain.1.load chip
    rw [hheld] at hkept
    simp only [List.map_cons, List.cons_append, anchorLoad, HexRecord.transfer] at hrun
    split at hrun <;> cases hrun
    · obtain ⟨hlater, hok⟩ := ih hplain.2 hkept rfl
      refine ⟨fun p hp hfree => ?_, fun hresult => ?_⟩
      · rcases List.mem_cons.mp hp with rfl | hp
        · cases hkept.symm.trans hfree
        · rw [hlater p hp hfree, hram, ← imageOf_cons]
      · obtain ⟨p, hlast, hfree⟩ := hok hresult
        exact ⟨p, by rw [List.getLast?_cons, hlast]; rfl, hfree⟩
    · refine ⟨fun p hp hfree => ?_, fun hok => by cases hok⟩
      rename_i carriedOut _
      obtain rfl := List.mem_singleton.mp hp
      cases carriedOut with
      | true => cases hkept.symm.trans hfree
      | false => cases hheld.symm.trans hfree

/-- A record's length is one byte. -/
theorem Loads.fits {lead : Char → Option Nat} {lines : List (List Char)}
    (h : Loads lead lines records) : ∀ record ∈ records, record.data.length ≤ 255 := by
  induction h with
  | none => exact fun _ hrecord => absurd hrecord List.not_mem_nil
  | blank _ _ ih => exact ih
  | data r _ _ _ ih => exact List.forall_mem_cons.mpr ⟨r.fits, ih⟩
  | skipped _ _ _ _ _ ih => exact ih

theorem parseHex_fits {text : Str} (h : parseHex text = .ok records) :
    ∀ record ∈ records, record.data.length ≤ 255 := by
  rcases (parseHex_eq_ok text).mp h with h | ⟨_, _, _, _, h, -⟩
  · exact h.fits
  · exact h.fits

theorem reported_eq_ok {ε : Type} {result : Except ε Unit} (h : reported result = .ok ()) :
    result = .ok () := by
  cases result with
  | ok => rfl
  | error e => cases h

end Ugpibd.Backend.Agilent
