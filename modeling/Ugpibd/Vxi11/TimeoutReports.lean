import Ugpibd.Vxi11.DataCalls

/-! Which failures are reported as what they are. A failure is misread where its text has the words
and no wait ran out, or where a wait ran out and its text does not have them. -/
namespace Ugpibd.Vxi11.DataCalls
open Library Backend

variable {E : Type} {usb : UsbErrors E} {reading : Usbtmc.Reading}

theorem contains_timeout (t : Text) : contains t "timeout" = t.has "timeout".toList := by
  have hp : ∀ a ∈ ['t', 'i', 'm', 'e', 'o', 'u', 't'], ¬ Separates a := by simp [Separates]
  rw [Bool.eq_iff_iff]
  exact decide_eq_true_iff.trans (Template.has_iff hp t).symm

theorem contains_timed_out (t : Text) : contains t "timed out" = t.has "timed out".toList := by
  have hp : ∀ a ∈ ['t', 'i', 'm', 'e', 'd', ' ', 'o', 'u', 't'], ¬ Separates a := by
    simp [Separates]
  rw [Bool.eq_iff_iff]
  exact decide_eq_true_iff.trans (Template.has_iff hp t).symm

/-- What a looker finds in the fixed parts of a text and in the words of the USB library. -/
def Looker.finds (t : Text) : Looker → Bool
  | .deviceWrite => t.has "timeout".toList
  | .deviceRead => t.has "timed out".toList || t.has "timeout".toList

theorem Looker.takesForTimeout_eq (looker : Looker) (t : Text) :
    looker.takesForTimeout t = looker.finds t := by
  cases looker with
  | deviceWrite => exact contains_timeout t
  | deviceRead => exact congrArg₂ or (contains_timed_out t) (contains_timeout t)

/-- The looker's test on a text comes out as whether a wait ran out, unless the failure is misread. -/
def Told (looker : Looker) (t : Text) (ranOut misread : Bool) : Prop :=
  looker.takesForTimeout t = if ranOut then !misread else misread

theorem Told.iff {looker : Looker} {t : Text} {ranOut misread : Bool}
    (h : Told looker t ranOut misread) : looker.takesForTimeout t = ranOut ↔ misread = false := by
  rw [Told] at h
  rw [h]
  cases ranOut <;> cases misread <;> decide

theorem Told.of_finds {looker : Looker} {t : Text} {ranOut misread : Bool}
    (h : looker.finds t = if ranOut then !misread else misread) : Told looker t ranOut misread :=
  (looker.takesForTimeout_eq t).trans h

/-- A wait of the host's on the NI adapter is said to have timed out, which a write does not look
for. -/
def misreadTransact (looker : Looker) (usb : UsbErrors E) : NiUsbHs.TransactFailure E → Bool
  | .bulkOutTimedOut | .bulkInTimedOut => looker == .deviceWrite
  | .bulkOutFailed error | .bulkInFailed error => looker.takesForTimeout (.last (usb.display error))
  | .outOfStep => false

set_option maxRecDepth 1000 in
theorem told_transact (looker : Looker) (failure : NiUsbHs.TransactFailure E) :
    Told looker (failure.text usb) failure.ranOut (misreadTransact looker usb failure) := by
  apply Told.of_finds
  cases looker <;> cases failure <;> rfl

/-- The adapter's complaint about its parameters has the word in it. -/
def misreadWriteResponse : NiUsbHs.WriteResponseFailure → Bool
  | .eosMode => true
  | _ => false

def misreadReadResponse : NiUsbHs.ReadResponseFailure → Bool
  | .eosMode => true
  | _ => false

def misreadCommand (looker : Looker) (usb : UsbErrors E) : NiUsbHs.CommandFailure E → Bool
  | .transact failure => misreadTransact looker usb failure
  | .response failure => misreadWriteResponse failure

set_option maxRecDepth 1000 in
theorem told_command (looker : Looker) (failure : NiUsbHs.CommandFailure E) :
    Told looker (failure.text usb) failure.ranOut (misreadCommand looker usb failure) := by
  cases failure with
  | transact failure => exact told_transact looker failure
  | response failure =>
    apply Told.of_finds
    cases looker <;> cases failure <;> rfl

def misreadNiWrite (usb : UsbErrors E) : NiUsbHs.WriteFailure E → Bool
  | .command failure => misreadCommand .deviceWrite usb failure
  | .transact failure => misreadTransact .deviceWrite usb failure
  | .response failure => misreadWriteResponse failure
  | .listenOnly | .deviceMode | .accepted .. => false

theorem told_niWrite (failure : NiUsbHs.WriteFailure E) :
    Told .deviceWrite (failure.text usb) failure.ranOut (misreadNiWrite usb failure) := by
  cases failure with
  | command failure => exact told_command .deviceWrite failure
  | transact failure => exact told_transact .deviceWrite failure
  | response failure =>
    apply Told.of_finds
    cases failure <;> rfl
  | listenOnly | deviceMode | accepted => exact Told.of_finds rfl

def misreadNiRead (usb : UsbErrors E) : NiUsbHs.ReadFailure E → Bool
  | .command failure => misreadCommand .deviceRead usb failure
  | .transact failure => misreadTransact .deviceRead usb failure
  | .response failure => misreadReadResponse failure

set_option maxRecDepth 1000 in
theorem told_niRead (failure : NiUsbHs.ReadFailure E) :
    Told .deviceRead (failure.text usb) failure.ranOut (misreadNiRead usb failure) := by
  cases failure with
  | command failure => exact told_command .deviceRead failure
  | transact failure => exact told_transact .deviceRead failure
  | response failure =>
    apply Told.of_finds
    cases failure <;> rfl

/-- The wait for a control transfer is the USB library's own, and has no words but the library's. -/
def misreadSend (looker : Looker) (usb : UsbErrors E) : Agilent.SendFailure E → Bool
  | .bulkOutFailed error | .controlInFailed error =>
    looker.takesForTimeout (.last (usb.display error))
  | .controlInLate => !looker.takesForTimeout (.last usb.cancelled)
  | .writeCompleteLate | .statusTooShort _ => false

theorem told_send (looker : Looker) (failure : Agilent.SendFailure E) :
    Told looker (failure.text usb) failure.ranOut (misreadSend looker usb failure) := by
  apply Told.of_finds
  cases failure with
  | controlInLate =>
    rw [misreadSend, Bool.not_not]
    cases looker <;> rfl
  | _ => cases looker <;> rfl

def misreadAgilentWrite (usb : UsbErrors E) : Agilent.WriteFailure E → Bool
  | .listenOnly => false
  | .send failure => misreadSend .deviceWrite usb failure

theorem told_agilentWrite (failure : Agilent.WriteFailure E) :
    Told .deviceWrite (failure.text usb) failure.ranOut (misreadAgilentWrite usb failure) := by
  cases failure with
  | listenOnly => exact Told.of_finds rfl
  | send failure => exact told_send .deviceWrite failure

def misreadAgilentRead (usb : UsbErrors E) : Agilent.ReadFailure E → Bool
  | .send failure => misreadSend .deviceRead usb failure
  | .bulkOutFailed error | .bulkInFailed error =>
    Looker.deviceRead.takesForTimeout (.last (usb.display error))
  | .registersTimedOut | .registers _ | .timedOut _ => false

theorem told_agilentRead (failure : Agilent.ReadFailure E) :
    Told .deviceRead (failure.text usb) failure.ranOut (misreadAgilentRead usb failure) := by
  cases failure with
  | send failure => exact told_send .deviceRead failure
  | registers failure =>
    apply Told.of_finds
    cases failure <;> rfl
  | _ => exact Told.of_finds rfl

def misreadClear (looker : Looker) (usb : UsbErrors E) (reading : Usbtmc.Reading) :
    Usbtmc.ClearFailure E → Bool
  | .controlFailed _ error | .clearBulkInHalt error | .clearBulkOutHalt error =>
    looker.takesForTimeout (.last (usb.display error))
  | .controlLate _ => !looker.takesForTimeout (.last usb.cancelled)
  | .stillPending => reading.pendingClear
  | .badStatus .. | .emptyReply _ => false

/-- No name of a status has the words. -/
theorem finds_statusName (looker : Looker) (status : UInt8) :
    looker.finds (fixed (" (" ++ Usbtmc.statusName status ++ ")")) = false := by
  unfold Usbtmc.statusName
  split <;> cases looker <;> rfl

theorem told_clear (looker : Looker) (failure : Usbtmc.ClearFailure E) :
    Told looker ((failure.text usb).context "recovering the bulk pipe") (failure.ranOut reading)
      (misreadClear looker usb reading failure) := by
  apply Told.of_finds
  cases failure with
  | controlLate request =>
    rw [misreadClear, Bool.not_not]
    cases looker <;> cases request <;> rfl
  | badStatus request status =>
    have hname := finds_statusName looker status
    rw [Usbtmc.ClearFailure.text]
    generalize Usbtmc.statusName status = name at hname ⊢
    cases looker <;> cases request <;> exact hname
  | controlFailed request | emptyReply request => cases looker <;> cases request <;> rfl
  | stillPending =>
    obtain ⟨pendingClear, unparsedReply⟩ := reading
    cases looker <;> cases pendingClear <;> rfl
  | clearBulkInHalt | clearBulkOutHalt => cases looker <;> rfl

def misreadMessage (looker : Looker) (usb : UsbErrors E) (reading : Usbtmc.Reading) :
    Usbtmc.SendFailure E → Bool
  | .settle failure => misreadClear looker usb reading failure
  | .bulkOutTimedOut .. => looker == .deviceWrite
  | .bulkOutFailed _ error => looker.takesForTimeout (.last (usb.display error))

theorem told_message (looker : Looker) (failure : Usbtmc.SendFailure E) :
    Told looker (failure.text usb) (failure.ranOut reading)
      (misreadMessage looker usb reading failure) := by
  cases failure with
  | settle failure => exact told_clear looker failure
  | bulkOutTimedOut message | bulkOutFailed message =>
    apply Told.of_finds
    cases looker <;> cases message <;> rfl

def misreadUsbtmcRead (usb : UsbErrors E) (reading : Usbtmc.Reading) :
    Usbtmc.ReadFailure E → Bool
  | .send failure => misreadMessage .deviceRead usb reading failure
  | .bulkInTimedOut _ => false
  | .bulkInFailed error => Looker.deviceRead.takesForTimeout (.last (usb.display error))
  | .parse _ unanswered => reading.unparsedReply && unanswered

theorem told_usbtmcRead (failure : Usbtmc.ReadFailure E) :
    Told .deviceRead (failure.text usb) (failure.ranOut reading)
      (misreadUsbtmcRead usb reading failure) := by
  cases failure with
  | send failure => exact told_message .deviceRead failure
  | bulkInTimedOut | bulkInFailed => exact Told.of_finds rfl
  | parse failure unanswered =>
    apply Told.of_finds
    rw [Usbtmc.ReadFailure.ranOut, misreadUsbtmcRead]
    generalize (reading.unparsedReply && unanswered) = late
    cases failure <;> cases late <;> rfl

/-- The failures of a write whose text says otherwise than what happened. -/
def WriteFailure.misread (usb : UsbErrors E) (reading : Usbtmc.Reading) : WriteFailure E → Bool
  | .niUsbHs failure => misreadNiWrite usb failure
  | .agilent82357 failure => misreadAgilentWrite usb failure
  | .usbtmc failure => misreadMessage .deviceWrite usb reading failure

theorem WriteFailure.told (failure : WriteFailure E) :
    Told .deviceWrite (failure.text usb) (failure.ranOut reading) (failure.misread usb reading) := by
  cases failure with
  | niUsbHs failure => exact told_niWrite failure
  | agilent82357 failure => exact told_agilentWrite failure
  | usbtmc failure => exact told_message .deviceWrite failure

def ReadFailure.misread (usb : UsbErrors E) (reading : Usbtmc.Reading) : ReadFailure E → Bool
  | .niUsbHs failure => misreadNiRead usb failure
  | .agilent82357 failure => misreadAgilentRead usb failure
  | .usbtmc failure => misreadUsbtmcRead usb reading failure

theorem ReadFailure.told (failure : ReadFailure E) :
    Told .deviceRead (failure.text usb) (failure.ranOut reading) (failure.misread usb reading) := by
  cases failure with
  | niUsbHs failure => exact told_niRead failure
  | agilent82357 failure => exact told_agilentRead failure
  | usbtmc failure => exact told_usbtmcRead failure

/-- The results of a slice that the read does not answer as it should: a misread failure, and a fault
that came as data. -/
def misreadSlice (usb : UsbErrors E) (reading : Usbtmc.Reading) :
    Except (ReadFailure E) Received → Bool
  | .error failure => failure.misread usb reading
  | .ok received => received.fault

section Calls
variable {attempt : Attempt E} {before : List (Attempt E)} {left : List (Answer E)}

theorem WriteCall.turn_failure {call : WriteCall} {written : Nat} {failure : WriteFailure E}
    (hruns : attempt.Runs) (hchunk : call.chunk written attempt = some (.error failure, left)) :
    call.turn usb written attempt = some (.returns
      ⟨if Looker.deviceWrite.takesForTimeout (failure.text usb) then .ioTimeout else .ioError,
        written⟩) := by
  simp [WriteCall.turn, hruns.1, hruns.2, hchunk]

/-- A failed chunk ends the write, whatever would have come after it. -/
theorem WriteCall.deviceWrite_failure {call : WriteCall} {written : Nat} {failure : WriteFailure E}
    (hbefore : stateAfter (call.turn usb) 0 before = some written) (hruns : attempt.Runs)
    (hchunk : call.chunk written attempt = some (.error failure, left)) (rest : List (Attempt E)) :
    call.deviceWrite usb (before ++ attempt :: rest) = some
      ⟨if Looker.deviceWrite.takesForTimeout (failure.text usb) then .ioTimeout else .ioError,
        written⟩ := by
  rw [WriteCall.deviceWrite, loop_append hbefore, loop, WriteCall.turn_failure hruns hchunk]

theorem ReadCall.turn_failure {call : ReadCall} {data : List UInt8} {failure : ReadFailure E}
    (hruns : attempt.Runs) (hslice : call.slice data attempt = some (.error failure, left)) :
    call.turn usb data attempt =
      if Looker.deviceRead.takesForTimeout (failure.text usb) then some (.goesOn data)
      else some (.returns ⟨.ioError, 0, []⟩) := by
  simp [ReadCall.turn, hruns.1, hruns.2, hslice]

/-- A failed slice is retried as if it had not been made, or ends the read. -/
theorem ReadCall.deviceRead_failure {call : ReadCall} {data : List UInt8} {failure : ReadFailure E}
    (hbefore : stateAfter (call.turn usb) [] before = some data) (hruns : attempt.Runs)
    (hslice : call.slice data attempt = some (.error failure, left)) (rest : List (Attempt E)) :
    call.deviceRead usb (before ++ attempt :: rest) =
      if Looker.deviceRead.takesForTimeout (failure.text usb) then
        call.deviceRead usb (before ++ rest)
      else some ⟨.ioError, 0, []⟩ := by
  rw [ReadCall.deviceRead, ReadCall.deviceRead, loop_append hbefore, loop_append hbefore, loop,
    ReadCall.turn_failure hruns hslice]
  cases Looker.deviceRead.takesForTimeout (failure.text usb) <;> rfl

/-- The end of the deadline is a timeout, with the bytes so far. -/
theorem ReadCall.deviceRead_deadline {call : ReadCall} {data : List UInt8}
    (hbefore : stateAfter (call.turn usb) [] before = some data) (habort : attempt.aborted = false)
    (hdeadline : attempt.remaining = 0) (rest : List (Attempt E)) :
    call.deviceRead usb (before ++ attempt :: rest) = some ⟨.ioTimeout, 0, data⟩ := by
  rw [ReadCall.deviceRead, loop_append hbefore, loop]
  simp [ReadCall.turn, habort, hdeadline]

/-- Data never ends a read with a device error. -/
theorem ReadCall.deviceRead_received {call : ReadCall} {data : List UInt8} {received : Received}
    (hbefore : stateAfter (call.turn usb) [] before = some data) (hruns : attempt.Runs)
    (hslice : call.slice data attempt = some (.ok received, left)) :
    call.deviceRead usb (before ++ [attempt]) ≠ some ⟨.ioError, 0, []⟩ := by
  rw [ReadCall.deviceRead, loop_append hbefore, loop, ReadCall.turn, hruns.1, if_neg Bool.false_ne_true,
    if_neg hruns.2, hslice]
  dsimp only
  split
  · rename_i hturn
    split at hturn <;> cases hturn
  · simp [loop]
  · rename_i hturn
    split at hturn
    · cases hturn
      simp
    · cases hturn

/-- What the read makes of a slice's result, whatever comes after: a wait that ran out is retried
until the deadline, and any other failure or fault ends the read with a device error. -/
def ReadCall.Reports (call : ReadCall) (usb : UsbErrors E) (reading : Usbtmc.Reading)
    (before : List (Attempt E)) (attempt : Attempt E) : Except (ReadFailure E) Received → Prop
  | .error failure => ∀ rest, call.deviceRead usb (before ++ attempt :: rest) =
      if failure.ranOut reading then call.deviceRead usb (before ++ rest)
      else some ⟨.ioError, 0, []⟩
  | .ok received => received.fault = true →
      ∀ rest, call.deviceRead usb (before ++ attempt :: rest) = some ⟨.ioError, 0, []⟩

theorem ReadCall.reports_iff {call : ReadCall} {data : List UInt8}
    {result : Except (ReadFailure E) Received}
    (hbefore : stateAfter (call.turn usb) [] before = some data) (hruns : attempt.Runs)
    (hslice : call.slice data attempt = some (result, left)) :
    call.Reports usb reading before attempt result ↔ misreadSlice usb reading result = false := by
  cases result with
  | error failure =>
    refine Iff.trans ⟨fun hreports => ?_, fun htold rest => ?_⟩ failure.told.iff
    · -- with no attempt left a retried read has not returned
      have hend : call.deviceRead usb (before ++ []) = none := by
        rw [ReadCall.deviceRead, loop_append hbefore, loop]
      have hlast := hreports []
      rw [ReadCall.deviceRead_failure hbefore hruns hslice, hend] at hlast
      generalize Looker.deviceRead.takesForTimeout (failure.text usb) = takes at hlast ⊢
      generalize failure.ranOut reading = ranOut at hlast ⊢
      revert hlast
      cases takes <;> cases ranOut <;> simp
    · rw [ReadCall.deviceRead_failure hbefore hruns hslice, htold]
  | ok received =>
    refine ⟨fun hreports => ?_, fun hfault hyes => ?_⟩
    · refine Bool.eq_false_iff.mpr fun hfault => ?_
      exact ReadCall.deviceRead_received hbefore hruns hslice (hreports hfault [])
    · rw [show received.fault = false from hfault] at hyes
      cases hyes

end Calls

/-- At every chunk and every slice of every write and read, on every backend: what the call makes of
a failure is right iff the failure is not one of those whose text misleads it. -/
theorem failures_reported_by_wait_iff (usb : UsbErrors E) (reading : Usbtmc.Reading) :
    (∀ (call : WriteCall) (before : List (Attempt E)) (attempt : Attempt E) (written : Nat)
      (failure : WriteFailure E) (left : List (Answer E)),
      stateAfter (call.turn usb) 0 before = some written → attempt.Runs →
      call.chunk written attempt = some (.error failure, left) →
      ((∀ rest, call.deviceWrite usb (before ++ attempt :: rest) =
        some ⟨if failure.ranOut reading then .ioTimeout else .ioError, written⟩) ↔
          failure.misread usb reading = false)) ∧
    (∀ (call : ReadCall) (before : List (Attempt E)) (attempt : Attempt E) (data : List UInt8)
      (result : Except (ReadFailure E) Received) (left : List (Answer E)),
      stateAfter (call.turn usb) [] before = some data → attempt.Runs →
      call.slice data attempt = some (result, left) →
      (call.Reports usb reading before attempt result ↔ misreadSlice usb reading result = false)) ∧
    ∀ (call : ReadCall) (before : List (Attempt E)) (attempt : Attempt E) (data : List UInt8)
      (rest : List (Attempt E)), stateAfter (call.turn usb) [] before = some data →
      attempt.aborted = false → attempt.remaining = 0 →
      call.deviceRead usb (before ++ attempt :: rest) = some ⟨.ioTimeout, 0, data⟩ := by
  refine ⟨?_, ?_, ?_⟩
  · intro call before attempt written failure left hbefore hruns hchunk
    refine Iff.trans ⟨fun hreports => ?_, fun htold rest => ?_⟩ failure.told.iff
    · have hlast := hreports []
      rw [WriteCall.deviceWrite_failure hbefore hruns hchunk] at hlast
      generalize Looker.deviceWrite.takesForTimeout (failure.text usb) = takes at hlast ⊢
      generalize failure.ranOut reading = ranOut at hlast ⊢
      revert hlast
      cases takes <;> cases ranOut <;> simp
    · rw [WriteCall.deviceWrite_failure hbefore hruns hchunk, htold]
  · intro call before attempt data result left hbefore hruns hslice
    exact ReadCall.reports_iff hbefore hruns hslice
  · intro call before attempt data rest hbefore habort hdeadline
    exact ReadCall.deviceRead_deadline hbefore habort hdeadline rest

/-- A USB library that never fails a transfer. -/
def quietUsb : UsbErrors Empty := ⟨nofun, "transfer was cancelled".toList⟩

def smallWrite : WriteCall := ⟨false, 3, false⟩

def smallRead : ReadCall := ⟨true, 5, 100, none, by decide⟩

/-- A turn well before the deadline. -/
def answered (adapter : Adapter) (answers : List (Answer Empty)) : Attempt Empty :=
  { remaining := 1000, adapter, answers }

def deadline (adapter : Adapter) : Attempt Empty := { remaining := 0, adapter, answers := [] }

/-- The NI adapter gives up on the addressing of a write. -/
def addressingTimeout : Attempt Empty := answered (.niUsbHs {})
  [.completed [], .completed [0x01], .completed [], .completed [0x0c, 0, 0, 10, 0, 0, 0, 0]]

/-- The NI adapter refuses a read for its parameters. -/
def eosModeRefusal : Attempt Empty := answered (.niUsbHs {})
  [.completed [], .completed [0x38, 0, 0, 4, 0, 0, 0, 0]]

/-- The 82357 refuses a read because it is not addressed. -/
def unaddressedRefusal : Attempt Empty := answered (.agilent82357 {})
  [.completed [], .completed [0xfb, 0], .completed [], .completed [0x80]]

/-- A timeout of the adapter's is reported as one. -/
theorem adapter_timeout_reported :
    smallWrite.deviceWrite quietUsb [addressingTimeout] = some ⟨.ioTimeout, 0⟩ :=
  ((failures_reported_by_wait_iff quietUsb ⟨true, true⟩).1 smallWrite [] addressingTimeout 0
    (.niUsbHs (.command (.response .timeout))) [] rfl ⟨rfl, by decide⟩ rfl).mpr rfl []

/-- The bulk-out of a write is not taken in time, on the NI adapter or on USBTMC: the client is told
of a device error. The NI adapter or the 82357 refuses a read: the client is told of a timeout, once
its deadline is over. -/
theorem usb_timeout_reported_as_device_error :
    (∀ adapter ∈ [Adapter.niUsbHs {}, .usbtmc {}], ∃ failure,
      smallWrite.chunk 0 (answered adapter [.late]) = some (.error failure, []) ∧
      failure.ranOut ⟨false, false⟩ = true ∧
      smallWrite.deviceWrite quietUsb [answered adapter [.late]] = some ⟨.ioError, 0⟩) ∧
    (∃ failure, smallRead.slice [] eosModeRefusal = some (.error failure, []) ∧
      failure.ranOut ⟨true, true⟩ = false ∧
      smallRead.deviceRead quietUsb [eosModeRefusal, deadline (.niUsbHs {})] =
        some ⟨.ioTimeout, 0, []⟩) ∧
    ∃ received, smallRead.slice [] unaddressedRefusal = some (.ok received, []) ∧
      received.fault = true ∧
      smallRead.deviceRead quietUsb [unaddressedRefusal, deadline (.agilent82357 {})] =
        some ⟨.ioTimeout, 0, []⟩ := by
  refine ⟨fun adapter hadapter => ?_, ⟨_, rfl, rfl, by decide +kernel⟩, ⟨_, rfl, rfl, rfl⟩⟩
  simp only [List.mem_cons, List.not_mem_nil, or_false] at hadapter
  rcases hadapter with rfl | rfl
  · exact ⟨_, rfl, rfl, rfl⟩
  · exact ⟨_, rfl, rfl, rfl⟩

end Ugpibd.Vxi11.DataCalls
