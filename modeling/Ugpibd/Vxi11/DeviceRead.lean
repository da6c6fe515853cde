import Ugpibd.Vxi11.DataCalls
import Ugpibd.Vxi11.Messages

/-! `device_read` as the dispatcher calls it. The loop ends at its deadline at the latest, and with a
backend that gives no more than it is asked for the answer holds no more than the clamp. -/
namespace Ugpibd.Vxi11.DataCalls
open Backend Messages

variable {E σ ρ : Type}

/-- What holds of the state in which a loop goes on, or of the reply it ends with. -/
def Turn.Sound (P : σ → Prop) (Q : ρ → Prop) : Turn σ ρ → Prop
  | .goesOn state => P state
  | .returns reply => Q reply

section
variable {turn : σ → Attempt E → Option (Turn σ ρ)} {state : σ} {attempts : List (Attempt E)}

/-- The rule for what every turn preserves. -/
theorem loop_sound {P : σ → Prop} {Q : ρ → Prop} {reply : ρ}
    (hturn : ∀ state, P state → ∀ attempt ∈ attempts, ∀ next,
      turn state attempt = some next → next.Sound P Q)
    (hstate : P state) (h : loop turn state attempts = some reply) : Q reply := by
  induction attempts generalizing state with
  | nil => cases h
  | cons attempt attempts ih =>
    have hnext := hturn state hstate attempt List.mem_cons_self
    rw [loop] at h
    split at h
    · cases h
    · rename_i state' heq
      refine ih (fun state hstate attempt hmem => ?_) (hnext _ heq) h
      exact hturn state hstate attempt (List.mem_cons_of_mem _ hmem)
    · rename_i reply' heq
      obtain rfl := Option.some.inj h
      exact hnext _ heq

/-- A loop whose turns all end, and one of them with a reply, returns. -/
theorem loop_returns (hturn : ∀ attempt ∈ attempts, ∀ state, turn state attempt ≠ none)
    (hlast : ∃ attempt ∈ attempts, ∀ state, ∃ reply, turn state attempt = some (.returns reply)) :
    (loop turn state attempts).isSome = true := by
  induction attempts generalizing state with
  | nil =>
    obtain ⟨attempt, hmem, -⟩ := hlast
    cases hmem
  | cons attempt attempts ih =>
    rw [List.forall_mem_cons] at hturn
    rw [loop]
    split
    · rename_i heq
      exact absurd heq (hturn.1 state)
    · rename_i state' heq
      refine ih hturn.2 ?_
      obtain ⟨last, hmem, hreturns⟩ := hlast
      rcases List.mem_cons.mp hmem with rfl | hmem
      · obtain ⟨reply, hreply⟩ := hreturns state
        rw [heq] at hreply
        cases hreply
      · exact ⟨last, hmem, hreturns⟩
    · rfl

end

/-- The backend gives at most what it is asked for. -/
def Attempt.Honest (attempt : Attempt E) : Prop :=
  ∀ unaddressed pad maxLen received rest,
    attempt.adapter.receive unaddressed pad maxLen attempt.answers = some (.ok received, rest) →
    received.data.length ≤ maxLen

namespace ReadCall
variable {call : ReadCall} {usb : UsbErrors E} {data : List UInt8} {attempt : Attempt E}

theorem clamped_le (call : ReadCall) : call.clamped ≤ maxRead := Nat.min_le_right _ _

theorem turn_sound (hhonest : attempt.Honest) (hdata : data.length ≤ call.clamped)
    {next : Turn (List UInt8) ReadReply} (h : call.turn usb data attempt = some next) :
    next.Sound (fun data => data.length ≤ call.clamped)
      (fun reply => reply.data.length ≤ call.clamped) := by
  unfold turn at h
  split at h
  · obtain rfl := Option.some.inj h
    exact hdata
  split at h
  · obtain rfl := Option.some.inj h
    exact hdata
  split at h
  · cases h
  · rename_i received rest hslice
    have hreceived := hhonest _ _ _ _ _ hslice
    have hlonger : (data ++ received.data).length ≤ call.clamped := by
      rw [List.length_append]
      omega
    dsimp only at h
    split at h
    · obtain rfl := Option.some.inj h
      exact hlonger
    · obtain rfl := Option.some.inj h
      exact hlonger
  · split at h
    · obtain rfl := Option.some.inj h
      exact hdata
    · obtain rfl := Option.some.inj h
      exact Nat.zero_le _

theorem turn_ne_none (h : attempt.Runs → (call.slice data attempt).isSome = true) :
    call.turn usb data attempt ≠ none := by
  intro hnone
  unfold turn at hnone
  split at hnone
  · cases hnone
  split at hnone
  · cases hnone
  rename_i haborted hremaining
  have hslice := h ⟨Bool.eq_false_iff.mpr haborted, hremaining⟩
  split at hnone
  · rename_i heq
    rw [heq] at hslice
    cases hslice
  · dsimp only at hnone
    split at hnone <;> cases hnone
  · split at hnone <;> cases hnone

theorem turn_deadline (h : attempt.remaining = 0) (data : List UInt8) :
    ∃ reply, call.turn usb data attempt = some (.returns reply) := by
  unfold turn
  split_ifs
  · exact ⟨_, rfl⟩
  · exact ⟨_, rfl⟩

end ReadCall

/-- A link a read finds: what the lock gate says, and the turns of its loop. Every transaction a turn
begins comes to an end, and time goes on until none is left. -/
structure ReadLink (E : Type) where
  interface : Bool
  pad : UInt8
  access : Except ErrorCode Unit
  attempts : List (Attempt E)
  answered : ∀ attempt ∈ attempts, attempt.Runs → ∀ maxLen ≤ maxRead,
    (attempt.adapter.receive interface pad maxLen attempt.answers).isSome = true
  deadline : ∃ attempt ∈ attempts, attempt.remaining = 0

def opFlagTermchrset : UInt32 := 128

def ReadReply.resp (reply : ReadReply) : DeviceReadResp :=
  ⟨reply.error.asU32, UInt32.ofNat reply.reason, reply.data⟩

namespace ReadLink

theorem requestSize_pos {parms : DeviceReadParms} (h : parms.requestSize ≠ 0) :
    0 < parms.requestSize.toNat :=
  Nat.pos_of_ne_zero fun hzero => h (UInt32.toNat_inj.mp hzero)

def call (link : ReadLink E) (parms : DeviceReadParms) (h : parms.requestSize ≠ 0) : ReadCall where
  interface := link.interface
  pad := link.pad
  requestSize := parms.requestSize.toNat
  termchr :=
    if parms.flags &&& opFlagTermchrset ≠ 0 then some parms.termChar.toUInt32.toUInt8 else none
  requestSize_pos := requestSize_pos h

theorem returns (link : ReadLink E) (usb : UsbErrors E) (parms : DeviceReadParms)
    (h : parms.requestSize ≠ 0) :
    ((link.call parms h).deviceRead usb link.attempts).isSome = true := by
  refine loop_returns (fun attempt hmem data => ReadCall.turn_ne_none fun hruns => ?_) ?_
  · refine link.answered attempt hmem hruns _ ?_
    exact (Nat.sub_le _ _).trans (ReadCall.clamped_le _)
  · obtain ⟨attempt, hmem, hremaining⟩ := link.deadline
    exact ⟨attempt, hmem, ReadCall.turn_deadline hremaining⟩

end ReadLink

def readFail (error : ErrorCode) : DeviceReadResp := ⟨error.asU32, 0, []⟩

def deviceRead (usb : UsbErrors E) (parms : DeviceReadParms) : Option (ReadLink E) → DeviceReadResp
  | none => readFail .invalidLinkIdentifier
  | some link =>
    if h : parms.requestSize = 0 then ⟨ErrorCode.noError.asU32, UInt32.ofNat rxReqcnt, []⟩
    else match link.access with
      | .error e => readFail e
      | .ok () =>
        (((link.call parms h).deviceRead usb link.attempts).get (link.returns usb parms h)).resp

theorem deviceRead_data_length (usb : UsbErrors E) (parms : DeviceReadParms)
    {found : Option (ReadLink E)}
    (hhonest : ∀ link ∈ found, ∀ attempt ∈ link.attempts, attempt.Honest) :
    (deviceRead usb parms found).data.length ≤ maxRead := by
  unfold deviceRead
  split
  · exact Nat.zero_le _
  rename_i link
  split
  · exact Nat.zero_le _
  split
  · exact Nat.zero_le _
  rename_i hsize _ _
  have hreply : (link.call parms hsize).deviceRead usb link.attempts = some
      (((link.call parms hsize).deviceRead usb link.attempts).get (link.returns usb parms hsize)) :=
    (Option.some_get _).symm
  have hlength := loop_sound (fun data hdata attempt hmem next hnext =>
    ReadCall.turn_sound (hhonest link rfl attempt hmem) hdata hnext) (Nat.zero_le _) hreply
  exact hlength.trans (ReadCall.clamped_le _)

end Ugpibd.Vxi11.DataCalls
