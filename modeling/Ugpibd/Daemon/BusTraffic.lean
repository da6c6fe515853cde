import Ugpibd.Daemon.BusOperations

/-! Where an operation's bus traffic goes: whatever the replies, an operation addresses its own
instrument or nobody, and only operations past no gate wait for the bus a second time. -/
namespace Ugpibd.Daemon

namespace Op
variable {op : Op} {choice : Choice} {reply : BusReply} {call : BusCall} {point point' : Point}

/-- Gated operations come from a session or a link and are for one instrument. -/
theorem gated_target (h : op.gated = true) :
    ∃ holder pad, op.holder = some holder ∧ op.pad = some pad ∧ op.target = some pad := by
  cases op with
  | hislip sessionId pad op =>
    cases op with
    | remoteLocalControl => cases h
    | _ => exact ⟨_, pad, rfl, rfl, rfl⟩
  | vxi11 lid pad op waitlock => exact ⟨_, pad, rfl, rfl, rfl⟩
  | prologix line => cases h

/-- The call addresses the operation's own instrument, or nobody. -/
def KeepsTo (op : Op) (call : BusCall) : Prop :=
  op.traffic call = none ∨ op.traffic call = op.target

theorem keepsTo_chunkCall {pad : UInt8} (data : List UInt8) (sendEoi : Bool) (written : Nat)
    (h : op.target = some pad) : op.KeepsTo (chunkCall pad data sendEoi written) := by
  unfold chunkCall
  dsimp only
  split
  · exact .inr h.symm
  · exact .inr rfl

theorem first_keepsTo (h : op.first choice = some (call, point)) : op.KeepsTo call := by
  cases op with
  | hislip sessionId pad op =>
    cases op with
    | remoteLocalControl controlCode =>
      simp only [first, HislipOp.first] at h
      split_ifs at h <;> cases h <;> simp_all [KeepsTo, traffic, BusCall.pad, target]
    | _ =>
      obtain ⟨rfl, rfl⟩ := Prod.mk.inj (Option.some.inj h)
      exact .inr rfl
  | vxi11 lid pad op waitlock =>
    cases op with
    | deviceWrite data sendEoi =>
      simp only [first, LinkOp.first] at h
      split at h
      · cases h
      · obtain ⟨rfl, rfl⟩ := Prod.mk.inj (Option.some.inj h)
        exact keepsTo_chunkCall data sendEoi 0 rfl
    | deviceRead requestSize termChar =>
      simp only [first, LinkOp.first] at h
      split at h
      · cases h
      · obtain ⟨rfl, rfl⟩ := Prod.mk.inj (Option.some.inj h)
        exact .inr rfl
    | _ =>
      obtain ⟨rfl, rfl⟩ := Prod.mk.inj (Option.some.inj h)
      exact .inr rfl
  | prologix line =>
    cases line <;> obtain ⟨rfl, rfl⟩ := Prod.mk.inj (Option.some.inj h) <;> exact .inr rfl

private theorem executeAfter_call {pad : UInt8} {expectResponse : Bool}
    (h : (executeAfter pad expectResponse reply choice point).call = some call) :
    call = .srqAsserted ∨ call = .serialPoll pad ∨ call = .read pad maxRead := by
  unfold executeAfter at h
  repeat' split at h
  all_goals cases h
  all_goals simp

private theorem readLoop_call {pad : UInt8} {requestSize : Nat} {data : List UInt8}
    (h : (readLoop pad requestSize data choice).call = some call) :
    ∃ maxLen, call = .read pad maxLen := by
  unfold readLoop at h
  split at h
  · cases h
  · exact ⟨_, (Option.some.inj h).symm⟩

private theorem readChunk_call {pad : UInt8} {requestSize : Nat} {termChar : Option UInt8}
    {data : List UInt8} {eom : Bool}
    (h : (readChunk pad requestSize termChar data eom choice).call = some call) :
    ∃ maxLen, call = .read pad maxLen := by
  unfold readChunk at h
  dsimp only at h
  split at h
  · cases h
  · exact readLoop_call h

private theorem readAfter_call {pad : UInt8} {requestSize : Nat} {termChar : Option UInt8}
    (h : (readAfter pad requestSize termChar reply choice point).call = some call) :
    ∃ maxLen, call = .read pad maxLen := by
  unfold readAfter at h
  repeat' split at h
  · cases h
  · exact readChunk_call h
  · cases h
  · exact readLoop_call h
  · cases h
  · exact readChunk_call h
  · exact readLoop_call h
  · cases h

/-- Whatever the reply, the next call addresses the operation's own instrument or nobody. -/
theorem after_keepsTo (h : (op.after reply choice point).call = some call) : op.KeepsTo call := by
  cases op with
  | hislip sessionId pad op =>
    cases op with
    | execute cmd expectResponse =>
      rcases executeAfter_call h with rfl | rfl | rfl
      · exact .inl rfl
      · exact .inr rfl
      · exact .inr rfl
    | remoteLocalControl controlCode =>
      simp only [after, HislipOp.after, remoteLocalAfter] at h
      repeat' split at h
      · obtain rfl := Option.some.inj h
        exact .inl rfl
      · obtain rfl := Option.some.inj h
        exact .inl rfl
      all_goals cases h
    | pollForServiceRequest =>
      simp only [after, HislipOp.after, pollAfter] at h
      repeat' split at h
      all_goals cases h
      · exact .inl rfl
      · exact .inr rfl
    | _ => cases h
  | vxi11 lid pad op waitlock =>
    cases op with
    | deviceWrite data sendEoi =>
      simp only [after, LinkOp.after, writeAfter] at h
      repeat' split at h
      · cases h
      · obtain rfl := Option.some.inj h
        exact keepsTo_chunkCall data sendEoi _ rfl
      all_goals cases h
    | deviceRead requestSize termChar =>
      obtain ⟨maxLen, rfl⟩ := readAfter_call h
      exact .inr rfl
    | _ => cases h
  | prologix line =>
    cases line with
    | forward pad data sendEoi autoRead =>
      simp only [after, LineOp.after, forwardAfter] at h
      repeat' split at h
      · obtain rfl := Option.some.inj h
        exact .inr rfl
      all_goals cases h
    | _ => cases h

/-- Only operations that pass no gate give the bus up and come back for it. -/
theorem after_rejoin_ungated (h : op.after reply choice point = .rejoin call point') :
    op.gated = false := by
  cases op with
  | hislip sessionId pad op =>
    cases op with
    | execute cmd expectResponse =>
      simp only [after, HislipOp.after, executeAfter] at h
      repeat' split at h
      all_goals cases h
    | remoteLocalControl | pollForServiceRequest => rfl
    | _ => cases h
  | vxi11 lid pad op waitlock =>
    cases op with
    | deviceWrite data sendEoi =>
      simp only [after, LinkOp.after, writeAfter] at h
      repeat' split at h
      all_goals cases h
    | deviceRead requestSize termChar =>
      simp only [after, LinkOp.after, readAfter, readChunk, readLoop] at h
      repeat' split at h
      all_goals cases h
    | _ => cases h
  | prologix line => rfl

end Op
end Ugpibd.Daemon
