import Ugpibd.Hislip.Conversation

/-! What a client's status call says about its replies. The server clears MAV when the client says
that it has had a reply, and this client never does. -/
namespace Ugpibd.Hislip.Conversation
open Library

section
variable {config : SessionConfig} {s : Conversation}

/-- With every message taken, the id a status call quotes is the latest. -/
theorem Sound.quoted (h : s.Sound) (hover : s.overrun = false) (htaken : s.onTheWay = [])
    (hlatest : (latestId s.server.history).isSome) :
    latestId s.server.history = some (s.messageId - 2) := by
  obtain ⟨hreceived, hid, -⟩ := h.inOrder hover
  rw [htaken, List.length_nil, Nat.add_zero] at hreceived
  rw [hid, hreceived] at hlatest ⊢
  rw [h.messageId]
  cases hcalls : s.calls.length with
  | zero =>
    rw [hcalls] at hlatest
    cases hlatest
  | succ n => rw [lastId, serverId_succ, UInt32.add_sub_cancel]

/-- MAV then says that a reply was begun, at any time in the session. -/
theorem Sound.mav_iff (h : s.Sound) (hover : s.overrun = false) (htaken : s.onTheWay = [])
    (live : Except String UInt8) :
    s.server.entry.statusByte live (s.messageId - 2) &&& stbMav ≠ 0 ↔ .begun ∈ s.server.history := by
  have htracks := h.follows.tracks
  have hbit := htracks.mavBit (s.messageId - 2)
  rw [modeAfter_plain h.plain, if_neg (by simp)] at hbit
  rw [statusByte_mav, hbit, ← replyBegun_plain h.plain]
  constructor
  · exact fun hset => hset.2
  · exact fun hbegun => ⟨h.quoted hover htaken (htracks.begun hbegun), hbegun⟩

/-- The last message of some reply has not been read. -/
def ReplyUnread (s : Conversation) : Prop := ∃ message ∈ s.unread, message.messageType = .dataEnd

/-- Once the server has taken every message, a status call reports MAV exactly if a reply was ever
begun. So MAV stands for an unread reply only until all have been read. -/
theorem mav_reported_iff (hmode : config.modes.prefersOverlapped = false)
    (h : Reach (Conversation.step config) anyStep (start config) s) (hover : s.overrun = false)
    (htaken : s.onTheWay = []) (live : Except String UInt8) :
    let mav := s.server.entry.statusByte live (s.messageId - 2) &&& stbMav ≠ 0
    (mav ↔ .begun ∈ s.server.history) ∧
    ((mav → s.ReplyUnread) ↔ .begun ∉ s.server.history ∨ s.ReplyUnread) := by
  intro mav
  have hmav : mav ↔ .begun ∈ s.server.history := (reach_sound hmode h).mav_iff hover htaken live
  exact ⟨hmav, by rw [hmav, imp_iff_not_or]⟩

/-- A query and the server's answer to it. -/
def oneQuery : List ConversationAction :=
  [.query [0x3f], .deliver, .server (.executed { read := .ok ([0x31], true) }),
    .server .beginReply, .server .sendNext, .server .replied]

/-- With the answer on its way MAV is right. -/
theorem mav_before_read :
    let config : SessionConfig := ⟨0x0100, 0x100000, .synchronized⟩
    ∃ s, Reach (Conversation.step config) anyStep (start config) s ∧
      s.server.entry.statusByte (.ok 0) (s.messageId - 2) &&& stbMav ≠ 0 ∧
      (.begun ∉ s.server.history ∨ s.ReplyUnread) := by
  intro config
  obtain ⟨s, hreach, htest⟩ := exists_reach_of_exec (Conversation.step config) (start config)
    (fun s => !s.overrun && s.onTheWay.isEmpty &&
      s.server.entry.statusByte (.ok 0) (s.messageId - 2) &&& stbMav != 0 &&
      s.unread.any (·.messageType == .dataEnd)) oneQuery (by decide +kernel)
  simp only [Bool.and_eq_true, Bool.not_eq_true', List.isEmpty_iff, beq_iff_eq, bne_iff_ne,
    List.any_eq_true] at htest
  obtain ⟨⟨⟨hover, htaken⟩, hmav⟩, hunread⟩ := htest
  have hiff := mav_reported_iff rfl hreach hover htaken (.ok 0)
  exact ⟨s, hreach, hmav, hiff.2.mp fun _ => hunread⟩

/-- When the client has read it all, MAV is still reported. -/
theorem mav_after_read :
    let config : SessionConfig := ⟨0x0100, 0x100000, .synchronized⟩
    ∃ s, Reach (Conversation.step config) anyStep (start config) s ∧
      (s.onTheWay.isEmpty && s.server.task == .reading && s.unread.isEmpty &&
        s.server.entry.statusByte (.ok 0) (s.messageId - 2) &&& stbMav != 0) = true := by
  intro config
  exact exists_reach_of_exec (Conversation.step config) (start config) _ (oneQuery ++ [.read])
    (by decide +kernel)

end
end Ugpibd.Hislip.Conversation
