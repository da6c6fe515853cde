import Ugpibd.Backend.NiSteps
import Ugpibd.Library.Runs

/-! The NI adapter's timeouts. A request carries a code for how long the adapter may wait, and the
transport waits for the reply by a number of its own, which the last call that computed a code, or that
set the timeout, has left in it. -/
namespace Ugpibd.Backend.NiUsbHs
open Library Operation Interruptible
open Ni (bulkTimeout)

/-- The steps of the adapter in microseconds, with their codes. -/
def timeoutTable : List (Nat × UInt8) :=
  [(10, 0xf1), (30, 0xf2), (100, 0xf3), (300, 0xf4), (1000, 0xf5), (3000, 0xf6), (10000, 0xf7),
    (30000, 0xf8), (100000, 0xf9), (300000, 0xfa), (1000000, 0xfb), (3000000, 0xfc),
    (10000000, 0xfd), (30000000, 0xfe), (100000000, 0xff), (300000000, 0x01), (1000000000, 0x02)]

/-- The code of the smallest step at or above the timeout. -/
def timeoutCode (timeoutMs : Nat) : UInt8 :=
  let usec := timeoutMs * 1000
  if usec = 0 then 0xf0
  else match timeoutTable.find? (usec ≤ ·.1) with
    | some (_, code) => code
    | none => 0xf0

def adapterWaitForeverMs : UInt32 := 0xffffffff

/-- The largest step at or below the timeout, as its code and how long it is. -/
def timeoutCodeFloorWait (timeoutMs : Nat) : UInt8 × UInt32 :=
  if timeoutMs = 0 then (0xf0, adapterWaitForeverMs)
  else match timeoutStepsMs.find? (·.1 ≤ timeoutMs) with
    | some (ms, code) => (code, .ofNat ms)
    | none => (0xf5, 1)

/-- A step of the adapter that is whole milliseconds. -/
def IsStep (ms : Nat) : Prop := ms * 1000 ∈ timeoutTable.map (·.1)
  deriving Decidable

/-- How long the adapter waits when it is told this code, in microseconds. -/
def toldUs (code : UInt8) : WithTop Nat :=
  if code = 0xf0 then ⊤
  else match timeoutTable.find? (·.2 = code) with
    | some (us, _) => us
    | none => 0

theorem timeoutCodeFloorWait_code (timeoutMs : Nat) :
    (timeoutCodeFloorWait timeoutMs).1 = timeoutCodeFloor timeoutMs := by
  unfold timeoutCodeFloorWait timeoutCodeFloor
  by_cases hzero : timeoutMs = 0
  · rw [if_pos hzero, if_pos hzero]
  · rw [if_neg hzero, if_neg hzero]
    cases timeoutStepsMs.find? (·.1 ≤ timeoutMs) <;> rfl

/-- The first hit in a table that goes down is the largest. -/
theorem le_of_find?_sorted {α : Type} {l : List (Nat × α)} {bound : Nat} {p : Nat × α}
    (hsorted : l.Pairwise fun a b => b.1 ≤ a.1) (h : l.find? (·.1 ≤ bound) = some p) :
    ∀ q ∈ l, q.1 ≤ bound → q.1 ≤ p.1 := by
  obtain ⟨-, before, after, rfl, hbefore⟩ := List.find?_eq_some_iff_append.mp h
  intro q hq hle
  rcases List.mem_append.mp hq with hq | hq
  · simpa [hle] using hbefore q hq
  · rcases List.mem_cons.mp hq with rfl | hq
    · exact Nat.le_refl _
    · exact (List.pairwise_cons.mp (List.pairwise_append.mp hsorted).2.1).1 q hq

theorem timeoutStepsMs_sorted : timeoutStepsMs.Pairwise fun a b => b.1 ≤ a.1 := by decide

/-- The two tables have the same whole steps, with the same codes. -/
theorem timeoutStepsMs_agree : ∀ p ∈ timeoutStepsMs,
    IsStep p.1 ∧ timeoutCode p.1 = p.2 ∧ p.2 ≠ 0 ∧ toldUs p.2 = (p.1 * 1000 : Nat) ∧
      p.1 < 2 ^ 32 := by
  decide

theorem mem_timeoutStepsMs_of_isStep {ms : Nat} (h : IsStep ms) :
    ms ∈ timeoutStepsMs.map (·.1) := by
  have hwhole : ∀ us ∈ timeoutTable.map (·.1), us % 1000 = 0 →
      us / 1000 ∈ timeoutStepsMs.map (·.1) := by decide
  have hms := hwhole (ms * 1000) h (Nat.mul_mod_left ms 1000)
  rwa [Nat.mul_div_cancel ms (by decide)] at hms

/-- A timeout that is not zero is floored to an entry of the table. -/
theorem timeoutCodeFloorWait_mem {timeoutMs : Nat} (h : 1 ≤ timeoutMs) :
    ∃ ms code, (ms, code) ∈ timeoutStepsMs ∧ ms ≤ timeoutMs ∧
      timeoutCodeFloorWait timeoutMs = (code, .ofNat ms) ∧
      ∀ q ∈ timeoutStepsMs, q.1 ≤ timeoutMs → q.1 ≤ ms := by
  have hsome : (timeoutStepsMs.find? (·.1 ≤ timeoutMs)).isSome :=
    List.find?_isSome.mpr ⟨(1, 0xf5), by decide, by simpa using h⟩
  obtain ⟨⟨ms, code⟩, hfind⟩ := Option.isSome_iff_exists.mp hsome
  refine ⟨ms, code, List.mem_of_find?_eq_some hfind, ?_, ?_,
    le_of_find?_sorted timeoutStepsMs_sorted hfind⟩
  · simpa using List.find?_some hfind
  · rw [timeoutCodeFloorWait, if_neg (by omega), hfind]

/-- What the flooring has to do with a timeout: the largest whole step not above it, with the code that
rounding up gives for it. -/
structure Floored (timeoutMs : Nat) (code : UInt8) (waitMs : Nat) : Prop where
  isStep : IsStep waitMs
  le : waitMs ≤ timeoutMs
  greatest : ∀ ms, IsStep ms → ms ≤ timeoutMs → ms ≤ waitMs
  code_eq : timeoutCode waitMs = code
  code_ne : code ≠ 0

theorem timeoutCodeFloorWait_floored {timeoutMs : Nat} (h : 1 ≤ timeoutMs) :
    Floored timeoutMs (timeoutCodeFloorWait timeoutMs).1
      (timeoutCodeFloorWait timeoutMs).2.toNat := by
  obtain ⟨ms, code, hmem, hle, heq, hgreatest⟩ := timeoutCodeFloorWait_mem h
  obtain ⟨hstep, hcode, hne, -, hlt⟩ := timeoutStepsMs_agree _ hmem
  rw [heq, UInt32.toNat_ofNat_of_lt' hlt]
  refine ⟨hstep, hle, fun other hother hbelow => ?_, hcode, hne⟩
  obtain ⟨q, hq, rfl⟩ := List.mem_map.mp (mem_timeoutStepsMs_of_isStep hother)
  exact hgreatest q hq hbelow

/-- Rounding up does not go below the timeout, up to the longest step. -/
theorem timeoutCode_roundsUp {timeoutMs : Nat} (h : 1 ≤ timeoutMs) (hmax : timeoutMs ≤ 1000000) :
    ∃ us, (us, timeoutCode timeoutMs) ∈ timeoutTable ∧ timeoutMs * 1000 ≤ us := by
  have hsome : (timeoutTable.find? (timeoutMs * 1000 ≤ ·.1)).isSome :=
    List.find?_isSome.mpr ⟨(1000000000, 0x02), by decide, by simp; omega⟩
  obtain ⟨⟨us, code⟩, hfind⟩ := Option.isSome_iff_exists.mp hsome
  have hcode : timeoutCode timeoutMs = code := by
    rw [timeoutCode, if_neg (by omega), hfind]
  rw [hcode]
  exact ⟨us, List.mem_of_find?_eq_some hfind, by simpa using List.find?_some hfind⟩

/-- The code a request carries, if it carries one. -/
def Packet.timeoutCode : Packet → Option UInt8
  | .command _ code | .dataWrite _ _ code | .dataRead _ _ _ code => some code
  | _ => none

/-- The parts the backend's operations are made of. -/
inductive Part
  | setTimeout (timeoutMs : Nat)
  | sendCommandBounded (cmd : List UInt8) (standbyAfter : Bool) (timeoutMs : Nat)
  | sendCommand (cmd : List UInt8) (standbyAfter : Bool)
  | writeDataBody (data : List UInt8) (sendEoi : Bool)
  | readDataBody (maxLen : Nat)
  | primingWrite
  | exchange (packet : Packet) (plain : packet.timeoutCode = none)

section
variable {E : Type} (usb : UsbErrors E)

def Part.op : Part → Op E Unit
  | .setTimeout timeoutMs => NiUsbHsBackend.setTimeout timeoutMs
  | .sendCommandBounded cmd standbyAfter timeoutMs =>
    NiUsbHs.sendCommandBounded usb cmd standbyAfter timeoutMs
  | .sendCommand cmd standbyAfter => sendCommandNow usb cmd standbyAfter
  | .writeDataBody data sendEoi => writeData usb data sendEoi
  | .readDataBody maxLen => do let _ ← readData usb maxLen
  | .primingWrite => do
    let _ ← NiUsbHs.exchange usb (.dataWrite [0x00] false (timeoutCodeFloor 10))
  | .exchange packet _ => do let _ ← NiUsbHs.exchange usb packet

/-- The timeout the part sets the transport's wait by, before it sends anything. -/
def Part.budget (c : NiUsbHsBackend) : Part → Option Nat
  | .setTimeout timeoutMs => some timeoutMs
  | .sendCommandBounded _ _ timeoutMs => some timeoutMs
  | .sendCommand _ _ | .writeDataBody _ _ | .readDataBody _ => some c.timeoutMs
  | .primingWrite => some 10
  | .exchange _ _ => none

/-- The backend with its transport's wait. The requests with how long their replies are waited for are
not part of the program. -/
structure Waiting (E : Type) where
  port : NiPort E
  adapterWaitMs : UInt32
  requests : List (Packet × Nat) := []

def Waiting.opened (timeoutMs : Nat) (hsPlus : Bool) : Waiting E :=
  { port := newPort timeoutMs hsPlus, adapterWaitMs := (timeoutCodeFloorWait timeoutMs).2 }

/-- One part after another; each comes with the answers its transfers get. -/
def Waiting.step (s : Waiting E) (part : Part × List (Answer E)) : Option (Waiting E) :=
  let wait := match part.1.budget s.port.ctrl with
    | some timeoutMs => (timeoutCodeFloorWait timeoutMs).2
    | none => s.adapterWaitMs
  let port := { s.port with answers := part.2 }
  some {
    port := ((part.1.op usb).exec port).2
    adapterWaitMs := wait
    requests := (sentBy (part.1.op usb) port).map (·, bulkTimeout wait) ++ s.requests }

end

variable {E : Type} {usb : UsbErrors E} {I : Condition NiUsbHsBackend Packet} {code : UInt8}

theorem commandTransfers_coded {fuel : Nat} {cmd : List UInt8}
    (hI : Stable (fun packet => packet.timeoutCode = some code) I) :
    Keeps I (commandTransfers usb code fuel cmd) :=
  commandTransfers_keeps_of fun _ c l _ => hI _ c l rfl

theorem dataWrites_coded {sendEoi : Bool} {fuel : Nat} {data : List UInt8}
    (hI : Stable (fun packet => packet.timeoutCode = some code) I) :
    Keeps I (dataWrites usb sendEoi code fuel data) :=
  dataWrites_keeps_of fun _ _ c l => hI _ c l rfl

/-- The codes a part may send are the one of its budget. -/
def WithinBudget (budget : Option Nat) (packet : Packet) : Prop :=
  ∀ code, packet.timeoutCode = some code →
    ∃ timeoutMs, budget = some timeoutMs ∧ code = timeoutCodeFloor timeoutMs

theorem stable_withinBudget {A : Packet → Prop} {before : List Packet} {timeoutMs : Nat}
    (hA : ∀ packet, A packet → packet.timeoutCode = some (timeoutCodeFloor timeoutMs) ∨
      packet.timeoutCode = none) :
    Stable A (SentOnly before (WithinBudget (some timeoutMs)) : Condition NiUsbHsBackend Packet) := by
  refine stable_sentOnly fun packet hpacket code hcode => ⟨timeoutMs, rfl, ?_⟩
  rcases hA packet hpacket with h | h
  · rw [h] at hcode
    exact (Option.some.inj hcode).symm
  · rw [h] at hcode
    cases hcode

theorem sendCommandBounded_within {cmd : List UInt8} {standbyAfter : Bool} {timeoutMs : Nat}
    {before : List Packet} :
    Keeps (SentOnly before (WithinBudget (some timeoutMs)))
      (sendCommandBounded usb cmd standbyAfter timeoutMs) := by
  have hplain : Stable (fun packet => packet.timeoutCode = none)
      (SentOnly before (WithinBudget (some timeoutMs)) : Condition NiUsbHsBackend Packet) :=
    stable_withinBudget fun _ => .inr
  unfold sendCommandBounded
  refine update_bind (K := SentOnly before (WithinBudget (some timeoutMs))) (fun _ _ h => h) ?_
  refine (exchange_keeps hplain rfl).bind fun _ => ?_
  refine (commandTransfers_coded (stable_withinBudget fun _ => .inl)).bind fun _ => ?_
  split
  · exact (exchange_keeps hplain rfl).then_pure
  · exact pure_keeps

/-- One exchange in budget. -/
theorem exchange_within {packet : Packet} {budget : Option Nat} {before : List Packet}
    (h : WithinBudget budget packet) :
    Keeps (SentOnly before (WithinBudget budget)) (exchange usb packet) :=
  exchange_keeps (A := (· = packet)) (stable_sentOnly (by rintro _ rfl; exact h)) rfl

theorem part_within (part : Part) (port : NiPort E) :
    ∀ packet ∈ sentBy (part.op usb) port, WithinBudget (part.budget port.ctrl) packet := by
  refine forall_sentBy ?_
  have hstart : ∀ B c l, c = port.ctrl ∧ l = port.sent → SentOnly port.sent B c l := by
    rintro B c l ⟨-, rfl⟩
    exact sentOnly_start c
  have hcoded : ∀ timeoutMs packet,
      Packet.timeoutCode packet = some (timeoutCodeFloor timeoutMs) →
      WithinBudget (some timeoutMs) packet := by
    intro timeoutMs packet hpacket code hcode
    exact ⟨timeoutMs, rfl, Option.some.inj (hcode.symm.trans hpacket)⟩
  cases part with
  | setTimeout timeoutMs =>
    rintro port' ⟨-, hsent⟩
    exact ⟨[], hsent, nofun⟩
  | sendCommandBounded cmd standbyAfter timeoutMs =>
    exact sendCommandBounded_within.weaken_pre (hstart _)
  | sendCommand cmd standbyAfter =>
    exact fields_bind_of_eq (fun _ _ => And.left) (sendCommandBounded_within.weaken_pre (hstart _))
  | writeDataBody data sendEoi =>
    refine fields_bind_of_eq (fun _ _ => And.left) ?_
    exact (dataWrites_coded (stable_withinBudget fun _ => .inl)).weaken_pre (hstart _)
  | readDataBody maxLen =>
    have hread : Ends (fun c l => c = port.ctrl ∧ l = port.sent) (readData usb maxLen)
        (fun _ => SentOnly port.sent (WithinBudget (some port.ctrl.timeoutMs)))
        (SentOnly port.sent (WithinBudget (some port.ctrl.timeoutMs))) := by
      refine fields_bind_of_eq (fun _ _ => And.left) ?_
      refine ((exchange_within (hcoded _ _ rfl)).weaken_pre (hstart _)).bind fun _ => ?_
      exact (context_ends ofExcept_keeps).then_pure
    exact hread.then_pure
  | primingWrite =>
    refine ((exchange_within (hcoded 10 _ rfl)).weaken_pre (hstart _)).bind fun _ => ?_
    exact pure_keeps
  | exchange packet plain =>
    have hwithin : WithinBudget none packet := by
      intro code hcode
      rw [plain] at hcode
      cases hcode
    refine ((exchange_within hwithin).weaken_pre (hstart _)).bind fun _ => ?_
    exact pure_keeps

/-- A reply is waited for as long as the adapter was told to wait, or, where that is for ever, as long as
the transport can. -/
def WaitsAsTold (code : UInt8) (waitMs : Nat) : Prop :=
  if code = 0xf0 then waitMs = 2 ^ 32 - 1 + 2000 else toldUs code ≤ (waitMs * 1000 : Nat)

theorem waitsAsTold_floor (timeoutMs : Nat) :
    WaitsAsTold (timeoutCodeFloor timeoutMs) (bulkTimeout (timeoutCodeFloorWait timeoutMs).2) := by
  rw [← timeoutCodeFloorWait_code]
  rcases Nat.eq_zero_or_pos timeoutMs with rfl | hpos
  · rfl
  · obtain ⟨ms, code, hmem, -, heq, -⟩ := timeoutCodeFloorWait_mem hpos
    obtain ⟨-, -, -, htold, hlt⟩ := timeoutStepsMs_agree _ hmem
    have hne : code ≠ 0xf0 := by
      rintro rfl
      cases htold
    rw [heq, WaitsAsTold, if_neg hne, htold, bulkTimeout, UInt32.toNat_ofNat_of_lt' hlt]
    exact WithTop.coe_le_coe.mpr (Nat.mul_le_mul_right 1000 (Nat.le_add_right ms _))

/-- Every request with a code is waited for as the adapter is told, whatever was called before. -/
theorem waits_of_reach {timeoutMs : Nat} {hsPlus : Bool} {s : Waiting E}
    (h : Reach (Waiting.step usb) anyStep (Waiting.opened timeoutMs hsPlus) s) :
    ∀ r ∈ s.requests, ∀ code, r.1.timeoutCode = some code → WaitsAsTold code r.2 := by
  refine h.invariant (P := fun s => ∀ r ∈ s.requests, ∀ code, r.1.timeoutCode = some code →
    WaitsAsTold code r.2) (by rintro r ⟨⟩) ?_
  rintro s ⟨part, answers⟩ t hs - hstep
  cases hstep
  intro r hr code hcode
  rcases List.mem_append.mp hr with hnew | hold
  · obtain ⟨packet, hpacket, rfl⟩ := List.mem_map.mp hnew
    obtain ⟨timeoutMs, hbudget, rfl⟩ := part_within part _ packet hpacket code hcode
    dsimp only at hbudget ⊢
    rw [hbudget]
    exact waitsAsTold_floor timeoutMs
  · exact hs r hold code hcode

end Ugpibd.Backend.NiUsbHs
