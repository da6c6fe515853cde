import Ugpibd.Hislip.ChannelLoop
import Ugpibd.Library.Runs

/-! A device clear as the two channels of a session see it. The asynchronous one counts it, the
synchronous one compares the count when it next reads a message; the two are read independently. -/
namespace Ugpibd.Hislip
open Library

/-- A byte of a payload, and the number of the message that carried it on the synchronous channel.
The program keeps the byte only. -/
structure Octet where
  value : UInt8
  message : Nat
  deriving DecidableEq, Repr

/-- A command as it is given to the instrument, and how many messages the synchronous channel had
read when it last completed a device clear. -/
structure Command where
  octets : List Octet
  cleared : Nat
  deriving DecidableEq, Repr

/-- What the clear handshake touches of a session. `running` is a command that has been taken out
of the buffer and waits for the lock and the bus. The message count, `cleared` and `executed` are
not part of the program. -/
structure Assembly where
  protocol : UInt16
  clearEpoch : UInt64 := 0
  epoch : UInt64 := 0
  buffer : List Octet := []
  running : Option (List Octet) := none
  serving : Bool := true
  received : Nat := 0
  cleared : Nat := 0
  executed : List Command := []

/-- A message read on the synchronous channel, one it could not read, a command given to the
instrument, and a device clear on the asynchronous channel once it has the lock. -/
inductive ClearAction
  | syncMessage (msg : Message)
  | syncError (e : Error)
  | execute
  | asyncDeviceClear
  deriving DecidableEq

namespace Assembly

/-- A device clear since the last message voids a half-assembled one. -/
def noticeClear (s : Assembly) : Assembly :=
  if s.clearEpoch ≠ s.epoch then { s with epoch := s.clearEpoch, buffer := [] } else s

/-- What the synchronous channel does with a message. -/
def syncMessage (s : Assembly) (msg : Message) : Assembly :=
  let payload := msg.payload.map (Octet.mk · s.received)
  let s := { s with received := s.received + 1 }
  match msg.messageType with
  | .data => { s with buffer := s.buffer ++ payload }
  | .dataEnd => { s with buffer := [], running := some (s.buffer ++ payload) }
  | .deviceClearComplete => { s with cleared := s.received }
  | _ => { s with serving := Channel.sync.continues s.protocol msg }

def step (s : Assembly) : ClearAction → Option Assembly
  | .syncMessage msg =>
    -- the loop is sequential: it reads on when its command is done
    if s.serving ∧ s.running = none then some (s.noticeClear.syncMessage msg) else none
  | .syncError e =>
    if s.serving ∧ s.running = none then
      some { s with received := s.received + 1, serving := !e.isFatal }
    else none
  | .execute => match s.running with
    | some octets => some { s with
        running := none
        executed := ⟨octets, s.cleared⟩ :: s.executed }
    | none => none
  | .asyncDeviceClear => some { s with clearEpoch := s.clearEpoch + 1 }

/-- The handshake completes only where nothing of a message is left over. -/
def clearsEmpty (s : Assembly) : ClearAction → Prop
  | .syncMessage msg => msg.messageType = .deviceClearComplete → s.noticeClear.buffer = []
  | _ => True

/-- The octets came on the synchronous channel after the last completed clear. -/
def After (cleared : Nat) (octets : List Octet) : Prop :=
  ∀ octet ∈ octets, cleared ≤ octet.message

/-- What has been assembled, is waiting and was given to the instrument since the last completed
clear came after it. -/
structure Fresh (s : Assembly) : Prop where
  cleared_le : s.cleared ≤ s.received
  buffer : After s.cleared s.buffer
  running : ∀ octets, s.running = some octets → After s.cleared octets
  executed : ∀ command ∈ s.executed, After command.cleared command.octets

variable {s s' : Assembly} {a : ClearAction} {msg : Message}

theorem after_nil (cleared : Nat) : After cleared [] := nofun

theorem After.append {cleared : Nat} {octets octets' : List Octet} (h : After cleared octets)
    (h' : After cleared octets') : After cleared (octets ++ octets') := by
  intro octet hmem
  rcases List.mem_append.mp hmem with hmem | hmem
  · exact h octet hmem
  · exact h' octet hmem

theorem fresh_start (protocol : UInt16) : Fresh { protocol } where
  cleared_le := Nat.le_refl 0
  buffer := after_nil _
  running := nofun
  executed := nofun

theorem Fresh.noticeClear (h : s.Fresh) : s.noticeClear.Fresh := by
  unfold Assembly.noticeClear
  split
  · exact ⟨h.cleared_le, after_nil _, h.running, h.executed⟩
  · exact h

@[simp] theorem noticeClear_running : s.noticeClear.running = s.running := by
  unfold noticeClear
  split <;> rfl

/-- The payload that is being read came after every clear completed before it. -/
theorem payload_after (hle : s.cleared ≤ s.received) (payload : List UInt8) :
    After s.cleared (payload.map (Octet.mk · s.received)) := by
  intro octet hmem
  obtain ⟨value, -, rfl⟩ := List.mem_map.mp hmem
  exact hle

/-- A message keeps what is assembled fresh, a completed clear if it finds nothing there. -/
theorem Fresh.syncMessage (h : s.Fresh) (hidle : s.running = none)
    (hempty : msg.messageType = .deviceClearComplete → s.buffer = []) :
    (s.syncMessage msg).Fresh := by
  have hle : s.cleared ≤ s.received + 1 := Nat.le_succ_of_le h.cleared_le
  have hpayload := payload_after h.cleared_le msg.payload
  unfold Assembly.syncMessage
  dsimp only
  split
  · exact ⟨hle, h.buffer.append hpayload, h.running, h.executed⟩
  · refine ⟨hle, after_nil _, ?_, h.executed⟩
    intro octets hrunning
    obtain rfl := Option.some.inj hrunning
    exact h.buffer.append hpayload
  · rename_i htype
    refine ⟨Nat.le_refl _, ?_, ?_, h.executed⟩
    · rw [hempty htype]
      exact after_nil _
    · rw [hidle]
      nofun
  · exact ⟨hle, h.buffer, h.running, h.executed⟩

theorem step_fresh (h : s.Fresh) (hg : s.clearsEmpty a) (hstep : s.step a = some s') :
    s'.Fresh := by
  cases a with
  | syncMessage msg =>
    simp only [step] at hstep
    split at hstep
    · rename_i hready
      obtain rfl := Option.some.inj hstep
      exact h.noticeClear.syncMessage (by rw [noticeClear_running]; exact hready.2) hg
    · cases hstep
  | syncError e =>
    simp only [step] at hstep
    split at hstep
    · obtain rfl := Option.some.inj hstep
      exact ⟨Nat.le_succ_of_le h.cleared_le, h.buffer, h.running, h.executed⟩
    · cases hstep
  | execute =>
    simp only [step] at hstep
    split at hstep
    · rename_i octets hrunning
      obtain rfl := Option.some.inj hstep
      refine ⟨h.cleared_le, h.buffer, nofun, ?_⟩
      intro command hmem
      rcases List.mem_cons.mp hmem with rfl | hmem
      · exact h.running octets hrunning
      · exact h.executed command hmem
    · cases hstep
  | asyncDeviceClear =>
    obtain rfl := Option.some.inj hstep
    exact ⟨h.cleared_le, h.buffer, h.running, h.executed⟩

/-- In every run in which a device clear completes only with nothing left over in the buffer, every
command given to the instrument is made up of bytes that the synchronous channel brought after the
last clear completed before it. -/
theorem commands_follow_last_clear {protocol : UInt16} (h : Reach step clearsEmpty { protocol } s)
    (command : Command) (hmem : command ∈ s.executed) :
    ∀ octet ∈ command.octets, command.cleared ≤ octet.message := by
  have hfresh : s.Fresh := Reach.invariant h (fresh_start protocol)
    fun _ _ _ hfresh hg hstep => step_fresh hfresh hg hstep
  exact hfresh.executed command hmem

private def payloadOf (messageType : MessageType) (payload : List UInt8) : ClearAction :=
  .syncMessage ⟨messageType, 0, 0, payload⟩

/-- A message begun before the clear is given up and the next command starts afresh. -/
theorem command_after_clear_is_fresh :
    ∃ s, Reach step clearsEmpty { protocol := protocol20 } s ∧
      ∃ command ∈ s.executed, command = ⟨[⟨0x42, 2⟩], 2⟩ ∧
        ∀ octet ∈ command.octets, command.cleared ≤ octet.message := by
  have hbegun : Reach step clearsEmpty { protocol := protocol20 } _ :=
    Reach.refl.tail (a := payloadOf .data [0x41]) nofun rfl
  have hcleared := (hbegun.tail (a := .asyncDeviceClear) (by trivial) rfl).tail
    (a := payloadOf .deviceClearComplete []) (fun _ => rfl) rfl
  have hrun := (hcleared.tail (a := payloadOf .dataEnd [0x42]) nofun rfl).tail (a := .execute)
    (by trivial) rfl
  exact ⟨_, hrun, _, List.mem_cons_self, rfl, commands_follow_last_clear hrun _ List.mem_cons_self⟩

/-- A message of before the clear that is read after it has been counted: its bytes are the
beginning of the first command after the handshake. -/
theorem stale_bytes_lead_next_command :
    ∃ s, Reach step anyStep { protocol := protocol20 } s ∧
      ∃ command ∈ s.executed, command = ⟨[⟨0x41, 0⟩, ⟨0x42, 2⟩], 2⟩ ∧
        ¬ ∀ octet ∈ command.octets, command.cleared ≤ octet.message := by
  obtain ⟨s, hreach, htest⟩ := exists_reach_of_exec step { protocol := protocol20 }
    (fun s => s.executed.any (· == ⟨[⟨0x41, 0⟩, ⟨0x42, 2⟩], 2⟩))
    [.asyncDeviceClear, payloadOf .data [0x41], payloadOf .deviceClearComplete [],
      payloadOf .dataEnd [0x42], .execute] (by decide +kernel)
  obtain ⟨command, hmem, heq⟩ := List.any_eq_true.mp htest
  obtain rfl := beq_iff_eq.mp heq
  exact ⟨s, hreach, _, hmem, rfl, by decide⟩

end Assembly
end Ugpibd.Hislip
