import Ugpibd.Backend.UsbtmcMessages
import Ugpibd.Vxi11.ReadTraffic

/-! A `device_read` on a USBTMC device: whether the device's replies fit what the call still wants, and
whether they all come back to the caller. -/
namespace Ugpibd.Vxi11.BusSettings
open Library Backend Messages DataCalls Usbtmc

variable {E : Type} {usb : UsbErrors E} {inputs : PollInputs} {r : Receive Event} {received : Received}

def Receive.failed {P : Type} (r : Receive P) : Bool := match r.result with
  | some (.ok _) => false
  | _ => true

/-- A read returns its chunk, or fails and has none. -/
theorem Receive.ok_or_failed {P : Type} (r : Receive P) :
    (∃ received, r.result = some (.ok received) ∧ r.chunk = received.data) ∨
      r.failed = true ∧ r.chunk = [] := by
  unfold Receive.failed Receive.chunk
  match r.result with
  | some (.ok received) => exact .inl ⟨received, rfl, rfl⟩
  | some (.error _) => exact .inr ⟨rfl, rfl⟩
  | none => exact .inr ⟨rfl, rfl⟩

/-- A read that returned has all that it took from the device. -/
theorem Receive.Genuine.holds (h : r.Genuine (UsbtmcBackend.backend usb) inputs)
    (hok : r.result = some (.ok received)) : Holds (clampLen r.maxLen) received.data r.passed := by
  obtain ⟨port, hresult, hpassed⟩ := h
  have hrequest : (UsbtmcBackend.backend usb).request inputs r.request =
      UsbtmcBackend.readMessage usb r.maxLen := by
    unfold Receive.request
    cases r.pad <;> rfl
  rw [hrequest] at hresult hpassed
  rw [hpassed]
  exact UsbtmcBackend.readMessage_holds (hresult.symm.trans hok)

theorem clampLen_le {maxLen : Nat} (h : 1 ≤ maxLen) : clampLen maxLen ≤ maxLen := by
  unfold clampLen
  omega

/-- A device that keeps to its requests makes the backend do so. -/
theorem Receive.Genuine.honest (h : r.Genuine (UsbtmcBackend.backend usb) inputs)
    (hwithin : EachEvent WithinRequest r.passed) : r.Honest := by
  intro hasked
  obtain ⟨received, hok, hchunk⟩ | ⟨-, hchunk⟩ := r.ok_or_failed
  · rw [hchunk]
    exact ((h.holds hok).bounded hwithin).trans (clampLen_le hasked)
  · rw [hchunk]
    exact Nat.zero_le _

def plainReadParms (requestSize : UInt32) : DeviceReadParms where
  lid := 1
  requestSize := requestSize
  ioTimeoutMs := 2000
  lockTimeoutMs := 0
  flags := 0
  termChar := 0

/-- So many looks with time left, and one without. -/
def timeFor (reads : Nat) : Circumstances :=
  { link := some ⟨false, 5⟩
    looks := List.replicate reads { remaining := 2000000000 } ++ [{ remaining := 0 }] }

/-- A device that is asked for one byte and gives one. -/
def oneBytePort : Port UsbtmcBackend Event Unit :=
  answered [.completed [], .completed (InTransfer.encode ⟨[0x61], true, false, []⟩ 1)]

/-- A device that gives three bytes in the first transfer, and nothing in the second before the abort
is done. -/
def threeBytesPort : Port UsbtmcBackend Event Unit := answered
  [.completed [], .completed (InTransfer.encode ⟨[0x61, 0x62, 0x63], false, false, [0]⟩ 1),
    .completed [], .late, .completed [statusTransferNotInProgress], .completed []]

/-- A device that is too slow for the first read. -/
def slowBytePort : Port UsbtmcBackend Event Unit := answered
  [.completed [], .late, .completed [statusTransferNotInProgress], .completed [], .completed [],
    .completed (InTransfer.encode ⟨[0x61], true, false, []⟩ 2)]

end Ugpibd.Vxi11.BusSettings
