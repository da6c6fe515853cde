import Ugpibd.Hislip.SyncChannel

/-! Message ids and MAV over whole sessions. Both are rules over what has happened, and the entry's
fields are what the rules come to. -/
namespace Ugpibd.Hislip
open Library SyncChannel

/-- The mode after a history: the one the last completed clear agreed on. -/
def modeAfter (initial : Bool) : List SessionEvent → Bool
  | [] => initial
  | .cleared overlapped :: _ => overlapped
  | _ :: older => modeAfter initial older

/-- The ids of the reply messages sent since the last completed clear, in the order they were
sent. -/
def sentIds : List SessionEvent → List UInt32
  | [] => []
  | .cleared _ :: _ => []
  | .sent message :: older => sentIds older ++ [message.messageParameter]
  | _ :: older => sentIds older

/-- The id of the latest Data, DataEND or Trigger. -/
def latestId : List SessionEvent → Option UInt32
  | [] => none
  | .noted msg :: _ => some msg.messageParameter
  | _ :: older => latestId older

/-- A reply was begun since the latest message marked RMT-delivered and the last completed clear. -/
def replyBegun : List SessionEvent → Bool
  | [] => false
  | .begun :: _ => true
  | .cleared _ :: _ => false
  | .noted msg :: older => if firstBit msg.controlCode then false else replyBegun older
  | _ :: older => replyBegun older

/-- The `k`th id of the server's own sequence. -/
def serverId (k : Nat) : UInt32 := firstMessageId + 2 * UInt32.ofNat k

/-- The id of a reply message and the MAV bit of a status response as the events before them ask
for: by the server's own sequence in overlapped mode, by the client's messages in synchronized
mode. -/
def Numbered (initial : Bool) : SessionEvent → List SessionEvent → Prop
  | .sent message, older =>
    if modeAfter initial older then message.messageParameter = serverId (sentIds older).length
    else latestId older = some message.messageParameter
  | .answered _ messageId stb, older =>
    if modeAfter initial older then
      stb &&& stbMav = 0 ↔ messageId = (sentIds older).getLast?.getD (firstMessageId - 2)
    else stb &&& stbMav ≠ 0 ↔ latestId older = some messageId ∧ replyBegun older
  | _, _ => True

/-- The fields of an entry are what its history comes to, and every event in it was right. -/
structure Tracks (initial : Bool) (entry : SessionEntry) (history : List SessionEvent) : Prop where
  mode : entry.overlapped = modeAfter initial history
  next : entry.nextServerMessageId =
    if modeAfter initial history then serverId (sentIds history).length else firstMessageId
  ids : modeAfter initial history = true →
    sentIds history = (List.range (sentIds history).length).map serverId
  last : entry.lastMessageId = (latestId history).getD (firstMessageId - 2)
  mav : entry.mav = replyBegun history
  begun : replyBegun history = true → (latestId history).isSome
  events : EachEvent (Numbered initial) history

/-- The message the loop is serving. -/
def SyncTask.request : SyncTask → Option UInt32
  | .executing requestId _ | .answering requestId .. | .sending requestId .. => some requestId
  | _ => none

section
variable {initial : Bool} {entry : SessionEntry} {history : List SessionEvent} {stb : UInt8}

theorem serverId_zero : serverId 0 = firstMessageId := by decide

theorem serverId_succ (k : Nat) : serverId (k + 1) = serverId k + 2 := by
  have h : UInt32.ofNat (k + 1) = UInt32.ofNat k + 1 := UInt32.ofNat_add k 1
  rw [serverId, serverId, h]
  grind

theorem range_concat_map (k : Nat) :
    (List.range (k + 1)).map serverId = (List.range k).map serverId ++ [serverId k] := by
  rw [List.range_succ, List.map_append, List.map_singleton]

theorem or_and_right (a b mask : UInt8) : (a ||| b) &&& mask = a &&& mask ||| b &&& mask :=
  UInt8.eq_of_toBitVec_eq (BitVec.and_or_distrib_right ..)

/-- The MAV bit of a status response is the server's. -/
theorem statusByte_mav (entry : SessionEntry) (live : Except String UInt8) (messageId : UInt32) :
    entry.statusByte live messageId &&& stbMav = entry.mavBit messageId := by
  have hmask : ~~~stbMav &&& stbMav = 0 := by decide
  have hbit : entry.mavBit messageId &&& stbMav = entry.mavBit messageId := by
    unfold SessionEntry.mavBit
    split_ifs <;> decide
  rw [SessionEntry.statusByte, or_and_right, UInt8.and_assoc, hmask, hbit]
  simp

namespace Tracks

theorem start (entry : SessionEntry) (hnext : entry.nextServerMessageId = firstMessageId)
    (hlast : entry.lastMessageId = firstMessageId - 2) (hmav : entry.mav = false) :
    Tracks entry.overlapped entry [] where
  mode := rfl
  next := by rw [hnext]; split_ifs <;> rfl
  ids := fun _ => rfl
  last := hlast
  mav := hmav
  begun := nofun
  events := trivial

theorem noted (h : Tracks initial entry history) (msg : Message) :
    Tracks initial (entry.noteClientMessage msg) (.noted msg :: history) where
  mode := h.mode
  next := h.next
  ids := h.ids
  last := rfl
  mav := by
    change (if firstBit msg.controlCode then false else entry.mav) = _
    rw [h.mav]
    rfl
  begun := fun _ => rfl
  events := h.events.cons trivial

theorem begins (h : Tracks initial entry history) (hlatest : (latestId history).isSome) :
    Tracks initial { entry with mav := true } (.begun :: history) where
  mode := h.mode
  next := h.next
  ids := h.ids
  last := h.last
  mav := rfl
  begun := fun _ => hlatest
  events := h.events.cons trivial

theorem cleared (h : Tracks initial entry history) (overlapped : Bool) :
    Tracks initial (entry.setOverlapped overlapped) (.cleared overlapped :: history) where
  mode := rfl
  next := by
    change firstMessageId = if overlapped then serverId 0 else firstMessageId
    split_ifs
    · exact serverId_zero.symm
    · rfl
  ids := fun _ => rfl
  last := h.last
  mav := rfl
  begun := nofun
  events := h.events.cons trivial

/-- One message of a reply takes the next id of its mode. -/
theorem sends (h : Tracks initial entry history) {requestId : UInt32}
    (hlatest : latestId history = some requestId) (piece : MessageType × List UInt8) :
    Tracks initial (entry.writePiece requestId piece).2
      (.sent (entry.writePiece requestId piece).1 :: history) := by
  cases hmode : modeAfter initial history with
  | true =>
    have hnext : entry.nextServerMessageId = serverId (sentIds history).length := by
      rw [h.next, hmode, if_pos rfl]
    have hpiece : entry.writePiece requestId piece =
        (⟨piece.1, 0, serverId (sentIds history).length, piece.2⟩,
          { entry with nextServerMessageId := serverId (sentIds history).length + 2 }) := by
      simp [SessionEntry.writePiece, SessionEntry.responseMessageId, h.mode, hmode, hnext]
    have hids : sentIds (.sent ⟨piece.1, 0, serverId (sentIds history).length, piece.2⟩ :: history) =
        sentIds history ++ [serverId (sentIds history).length] := rfl
    rw [hpiece]
    refine ⟨h.mode, ?_, fun _ => ?_, h.last, h.mav, h.begun, h.events.cons ?_⟩
    · rw [hids, List.length_append, List.length_singleton, serverId_succ]
      exact (if_pos hmode).symm
    · rw [hids, List.length_append, List.length_singleton, range_concat_map, ← h.ids hmode]
    · exact (if_pos hmode).mpr rfl
  | false =>
    have hpiece : entry.writePiece requestId piece = (⟨piece.1, 0, requestId, piece.2⟩, entry) := by
      simp [SessionEntry.writePiece, SessionEntry.responseMessageId, h.mode, hmode]
    have hmode' : ¬ modeAfter initial history = true := by simp [hmode]
    rw [hpiece]
    refine ⟨h.mode, ?_, fun hnew => absurd hnew hmode', h.last, h.mav, h.begun, h.events.cons ?_⟩
    · rw [h.next, if_neg hmode']
      exact (if_neg hmode').symm
    · exact (if_neg hmode').mpr hlatest

/-- The bit for a status query is the one its history asks for. -/
theorem mavBit (h : Tracks initial entry history) (messageId : UInt32) :
    if modeAfter initial history then
      entry.mavBit messageId = 0 ↔
        messageId = (sentIds history).getLast?.getD (firstMessageId - 2)
    else entry.mavBit messageId ≠ 0 ↔ latestId history = some messageId ∧ replyBegun history := by
  cases hmode : modeAfter initial history with
  | true =>
    have hlast : entry.nextServerMessageId - 2 =
        (sentIds history).getLast?.getD (firstMessageId - 2) := by
      rw [h.next, hmode, if_pos rfl, h.ids hmode, List.length_map, List.length_range]
      cases (sentIds history).length with
      | zero => rfl
      | succ k => rw [range_concat_map, serverId_succ]; simp
    rw [if_pos rfl, SessionEntry.mavBit, h.mode, hmode, if_pos rfl, hlast]
    split_ifs with heq
    · simp [heq]
    · simp [heq, stbMav]
  | false =>
    rw [if_neg (by simp), SessionEntry.mavBit, h.mode, hmode, if_neg (by simp), h.mav]
    cases hbegun : replyBegun history with
    | false => simp
    | true =>
      obtain ⟨latest, hlatest⟩ := Option.isSome_iff_exists.mp (h.begun hbegun)
      have hlast : entry.lastMessageId = latest := by rw [h.last, hlatest, Option.getD_some]
      rw [hlast, hlatest]
      by_cases heq : messageId = latest
      · simp [heq, stbMav]
      · simp [heq, Ne.symm heq]

theorem answers (h : Tracks initial entry history) (live : Except String UInt8)
    (messageId : UInt32) :
    Tracks initial { entry with consumedStb := none }
      (.answered live messageId (entry.statusByte live messageId) :: history) := by
  refine ⟨h.mode, h.next, h.ids, h.last, h.mav, h.begun, h.events.cons ?_⟩
  change if modeAfter initial history then _ else _
  rw [statusByte_mav]
  exact h.mavBit messageId

/-- Events and fields that no id and no MAV bit depends on. -/
theorem wrote (h : Tracks initial entry history) (message : Message) :
    Tracks initial entry (.wrote message :: history) :=
  ⟨h.mode, h.next, h.ids, h.last, h.mav, h.begun, h.events.cons trivial⟩

theorem polled (h : Tracks initial entry history) (stb : UInt8) :
    Tracks initial entry (.polled stb :: history) :=
  ⟨h.mode, h.next, h.ids, h.last, h.mav, h.begun, h.events.cons trivial⟩

theorem putBy (h : Tracks initial entry history) (stb : UInt8) :
    Tracks initial { entry with consumedStb := some stb } (.putBy stb :: history) :=
  ⟨h.mode, h.next, h.ids, h.last, h.mav, h.begun, h.events.cons trivial⟩

theorem declared (h : Tracks initial entry history) (size : UInt64) :
    Tracks initial { entry with clientMaxMessageSize := size } history :=
  ⟨h.mode, h.next, h.ids, h.last, h.mav, h.begun, h.events⟩

end Tracks

/-- A session's entry follows its history, and the message it serves is the latest. -/
structure Follows (initial : Bool) (s : SyncChannel) : Prop where
  tracks : Tracks initial s.entry s.history
  request : ∀ id, s.task.request = some id → latestId s.history = some id

variable {config : SessionConfig} {s s' : SyncChannel} {msg : Message}

theorem follows_start (config : SessionConfig) :
    Follows config.modes.prefersOverlapped (SyncChannel.start config) :=
  ⟨.start (SyncChannel.start config).entry rfl rfl rfl, nofun⟩

namespace Follows

theorem noticeClear (h : Follows initial s) : Follows initial s.noticeClear := by
  unfold SyncChannel.noticeClear
  split_ifs
  · exact ⟨h.tracks, h.request⟩
  · exact h

theorem idle (h : Follows initial s) {task : SyncTask} (htask : task.request = none) :
    Follows initial { s with task } :=
  ⟨h.tracks, fun id hid => by rw [htask] at hid; cases hid⟩

theorem note (h : Follows initial s) (msg : Message) (buffer : List UInt8) {task : SyncTask}
    (htask : ∀ id, task.request = some id → msg.messageParameter = id) :
    Follows initial { s.note msg with buffer, task } :=
  ⟨h.tracks.noted msg, fun id hid => congrArg some (htask id hid)⟩

theorem receive (h : Follows initial s) (hidle : s.task = .reading) (msg : Message) :
    Follows initial (s.receive config msg) := by
  unfold SyncChannel.receive
  split
  · exact h.note msg _ (by rw [show (s.note msg).task = .reading from hidle]; nofun)
  · exact h.note msg _ (fun id hid => Option.some.inj hid)
  · exact h.note msg _ nofun
  · exact ⟨h.tracks.cleared _, nofun⟩
  · exact h.idle rfl
  · exact h
  · split_ifs
    · exact h.idle rfl
    · exact h.idle rfl

theorem raiseServiceRequest (h : Follows initial s) (serviceRequest : Option UInt8) :
    Follows initial (s.raiseServiceRequest serviceRequest) := by
  cases serviceRequest with
  | none => exact h
  | some stb => exact ⟨h.tracks.putBy stb, h.request⟩

theorem notePolled (h : Follows initial s) (polled : Option UInt8) :
    Follows initial (s.notePolled polled) := by
  cases polled with
  | none => exact h
  | some stb => exact ⟨h.tracks.polled stb, h.request⟩

theorem executed (h : Follows initial s) {requestId : UInt32}
    (hlatest : latestId s.history = some requestId) (result : Except String Execution) :
    Follows initial (s.executed requestId result) := by
  unfold SyncChannel.executed
  split
  · exact h.idle rfl
  · exact (h.idle rfl).raiseServiceRequest _
  · refine ⟨h.tracks.begins (Option.isSome_of_eq_some hlatest), fun id hid => ?_⟩
    obtain rfl := Option.some.inj hid
    exact hlatest

theorem step (h : Follows initial s) {a : SyncAction} (hs : SyncChannel.step config s a = some s') :
    Follows initial s' := by
  have hrequest := h.request
  cases SyncChannel.step_effect hs with
  | receive msg hidle => exact h.noticeClear.receive (s.noticeClear_task.trans hidle) msg
  | executed bus requestId cmd htask =>
    have hlatest : latestId s.history = some requestId := hrequest requestId (by rw [htask]; rfl)
    refine (h.notePolled _).executed ?_ _
    cases polledByExecute (queryHint cmd) bus <;> exact hlatest
  | beginReply requestId data serviceRequest htask =>
    exact ⟨h.tracks, fun id hid => hrequest id (by rw [htask]; exact hid)⟩
  | sendNext requestId piece rest serviceRequest htask =>
    have hlatest : latestId s.history = some requestId := hrequest requestId (by rw [htask]; rfl)
    exact ⟨h.tracks.sends hlatest piece, fun id hid => Option.some.inj hid ▸ hlatest⟩
  | replied => exact (h.idle rfl).raiseServiceRequest _
  | written message ends => exact ⟨h.tracks.wrote message, by cases ends <;> nofun⟩
  | forwarderPolled stb => exact (h.notePolled _).raiseServiceRequest _
  | statusQuery live messageId => exact ⟨h.tracks.answers live messageId, hrequest⟩
  | maximumMessageSize size => exact ⟨h.tracks.declared size, hrequest⟩
  | asyncDeviceClear => exact ⟨h.tracks, hrequest⟩
  | readError | disconnected | triggered | writeFailed => exact h.idle rfl

end Follows

theorem reach_follows {guard : SyncChannel → SyncAction → Prop}
    (h : Reach (SyncChannel.step config) guard (SyncChannel.start config) s) :
    Follows config.modes.prefersOverlapped s :=
  h.invariant (P := fun s => Follows config.modes.prefersOverlapped s) (follows_start config)
    fun _ _ _ hinv _ hs => hinv.step hs

/-- In every session: the ids of its reply messages follow the mode each was sent in, in overlapped
mode one sequence from the last completed clear on, and a status response's MAV bit tells in
overlapped mode whether the last of them was quoted, in synchronized mode whether a reply was begun
and the latest message was quoted. -/
theorem ids_and_mav_follow_history
    (h : Reach (SyncChannel.step config) anyStep (SyncChannel.start config) s) :
    let mode := modeAfter config.modes.prefersOverlapped
    (mode s.history = true → sentIds s.history =
      (List.range (sentIds s.history).length).map fun k => 0xffffff00 + 2 * UInt32.ofNat k) ∧
    (∀ newer message older, s.history = newer ++ .sent message :: older →
      (mode older = true →
        message.messageParameter = 0xffffff00 + 2 * UInt32.ofNat (sentIds older).length) ∧
      (mode older = false → latestId older = some message.messageParameter)) ∧
    ∀ newer live messageId stb older, s.history = newer ++ .answered live messageId stb :: older →
      (mode older = true →
        (stb &&& stbMav = 0 ↔ messageId = (sentIds older).getLast?.getD 0xfffffefe)) ∧
      (mode older = false →
        (stb &&& stbMav ≠ 0 ↔ latestId older = some messageId ∧ replyBegun older = true)) := by
  intro mode
  obtain ⟨htracks, -⟩ := reach_follows h
  have hevents := htracks.events
  refine ⟨htracks.ids, ?_, ?_⟩
  · intro newer message older hsplit
    rw [hsplit] at hevents
    have hevent : if mode older then _ else _ := hevents.at_event
    constructor <;> intro hmode
    · rw [if_pos hmode] at hevent
      exact hevent
    · rw [if_neg (by simp [hmode])] at hevent
      exact hevent
  · intro newer live messageId stb older hsplit
    rw [hsplit] at hevents
    have hevent : if mode older then _ else _ := hevents.at_event
    constructor <;> intro hmode
    · rw [if_pos hmode] at hevent
      exact hevent
    · rw [if_neg (by simp [hmode])] at hevent
      exact hevent

/-- Two replies in overlapped mode. -/
theorem ids_of_two_replies :
    let config : SessionConfig := ⟨0x0100, 0x100000, .preferOverlapped⟩
    ∃ s, Reach (SyncChannel.step config) anyStep (SyncChannel.start config) s ∧
      (sentIds s.history).length = 2 ∧
      sentIds s.history = (List.range 2).map fun k => 0xffffff00 + 2 * UInt32.ofNat k := by
  intro config
  let turn (messageId : UInt32) : List SyncAction :=
    [.receive ⟨.dataEnd, 0, messageId, [0x3f]⟩, .executed { read := .ok ([0x31], true) },
      .beginReply, .sendNext, .replied]
  obtain ⟨s, hreach, htest⟩ := exists_reach_of_exec (SyncChannel.step config)
    (SyncChannel.start config)
    (fun s => modeAfter true s.history && (sentIds s.history).length == 2)
    (turn 0xffffff00 ++ turn 0xffffff02) (by decide +kernel)
  obtain ⟨hmode, hlen⟩ := (Bool.and_eq_true _ _).mp htest
  have hlen := eq_of_beq hlen
  have hids := (ids_and_mav_follow_history hreach).1 hmode
  rw [hlen] at hids
  exact ⟨s, hreach, hlen, hids⟩

end
end Ugpibd.Hislip
