import Ugpibd.Hislip.Wire

/-! The two channels of a session read message after message. Where each turn begins decides what
is taken for a header. -/
namespace Ugpibd.Hislip
open Library Vxi11

inductive Channel
  | sync
  | async
  deriving DecidableEq, Repr

def protocol20 : UInt16 := 0x0200

/-- Whether a channel's loop goes on after a message it has read. -/
def Channel.continues (channel : Channel) (protocol : UInt16) (msg : Message) : Bool :=
  match channel with
  | .sync => match msg.messageType with
    | .fatalError => false
    | .startTLS | .endTLS | .getSaslMechanismList | .authenticationStart
    | .authenticationExchange => protocol < protocol20
    | _ => true
  | .async => match msg.messageType with
    | .asyncMaximumMessageSize => msg.payload.length == 8
    | .asyncStartTLS | .asyncEndTLS => protocol < protocol20
    | .fatalError => false
    | _ => true

/-- The same after an error of the read: only a fatal one ends the channel. -/
def Channel.goesOn (channel : Channel) (protocol : UInt16) : Except Error Message → Bool
  | .ok msg => channel.continues protocol msg
  | .error e => !e.isFatal

/-- One turn of a loop that got a whole header: how much of the stream was left where the header
began, what was read, and the error message it was answered with. -/
structure Turn where
  left : Nat
  incoming : Except ReadError (Except Error Message)
  answer : Option Message

def errorAnswer : Except Error Message → Option Message
  | .ok _ => none
  | .error e => some (.ofError e)

/-- The turns of a channel's loop. The list says for each turn it comes to whether there is memory
for the payload; it is as long as the session lasts. -/
def Channel.run (channel : Channel) (protocol : UInt16) (maxlen : Nat) :
    List Bool → Stream → List Turn
  | [], _ => []
  | reserved :: turns, stream =>
    if stream.bytes.length < Message.headerSize then []
    else match Message.readFrom maxlen reserved stream with
      | .error e => [⟨stream.bytes.length, .error e, none⟩]
      | .ok (incoming, rest) =>
        ⟨stream.bytes.length, .ok incoming, errorAnswer incoming⟩ ::
          if channel.goesOn protocol incoming then channel.run protocol maxlen turns rest else []

/-- What is on the stream when these messages have been sent. -/
def sent (frames : List Frame) : List UInt8 := frames.flatMap Frame.encode

/-- The turns as they should be: every message is read from its own header, in order, and one over
the limit is answered with a non-fatal error and passed over. -/
def Channel.inOrder (channel : Channel) (protocol : UInt16) (maxlen : Nat) :
    List Bool → List Frame → List Turn
  | [], _ => []
  | _, [] => []
  | reserved :: turns, frame :: frames =>
    let incoming := frame.incoming maxlen reserved
    ⟨(sent (frame :: frames)).length, .ok incoming, errorAnswer incoming⟩ ::
      if channel.goesOn protocol incoming then channel.inOrder protocol maxlen turns frames else []

/-- The first message over the limit that a channel comes to is its last and too short to hold a
header. -/
def Harmless (channel : Channel) (protocol : UInt16) (maxlen : Nat) (frames : List Frame) : Prop :=
  ∀ before frame after, frames = before ++ frame :: after →
    (∀ earlier ∈ before, earlier.payload.length ≤ maxlen ∧
      channel.goesOn protocol (earlier.incoming maxlen true)) →
    maxlen < frame.payload.length → after = [] ∧ frame.payload.length < Message.headerSize

section
variable {channel : Channel} {protocol : UInt16} {maxlen : Nat} {frame : Frame}
  {frames : List Frame} {turns : List Bool} {ending : StreamEnd} {reserved : Bool}

theorem sent_cons : sent (frame :: frames) = frame.encode ++ sent frames := by
  simp [sent]

/-- The next message is harmless if the ones from it on are and it is not the last to be read. -/
theorem Harmless.tail (h : Harmless channel protocol maxlen (frame :: frames))
    (hmax : frame.payload.length ≤ maxlen)
    (hgoes : channel.goesOn protocol (frame.incoming maxlen true)) :
    Harmless channel protocol maxlen frames := by
  intro before next after hframes hbefore
  refine h (frame :: before) next after (by rw [hframes]; rfl) ?_
  exact List.forall_mem_cons.mpr ⟨⟨hmax, hgoes⟩, hbefore⟩

/-- A channel that goes on after a message within the limit had memory for it. -/
theorem reserved_of_goesOn (hmax : frame.payload.length ≤ maxlen)
    (hgoes : channel.goesOn protocol (frame.incoming maxlen reserved)) : reserved = true := by
  cases reserved with
  | true => rfl
  | false =>
    rw [Frame.incoming, if_neg (Nat.not_lt.mpr hmax)] at hgoes
    cases hgoes

/-- After a message over the limit it always goes on. -/
theorem goesOn_tooLarge (hmax : maxlen < frame.payload.length) :
    channel.goesOn protocol (frame.incoming maxlen reserved) = true := by
  rw [Frame.incoming, if_pos hmax]
  rfl

/-- One turn at a message's header. The next begins after the message, or at its payload. -/
theorem run_cons :
    channel.run protocol maxlen (reserved :: turns) ⟨sent (frame :: frames), ending⟩ =
      ⟨(sent (frame :: frames)).length, .ok (frame.incoming maxlen reserved),
        errorAnswer (frame.incoming maxlen reserved)⟩ ::
        if channel.goesOn protocol (frame.incoming maxlen reserved) then
          channel.run protocol maxlen turns
            ⟨if maxlen < frame.payload.length then frame.payload ++ sent frames else sent frames,
              ending⟩
        else [] := by
  have hheader : ¬ (sent (frame :: frames)).length < Message.headerSize := by
    rw [sent_cons, List.length_append, frame.encode_length, Message.headerSize]
    omega
  rw [Channel.run, if_neg hheader, sent_cons]
  by_cases hmax : maxlen < frame.payload.length
  · rw [readFrom_tooLarge hmax, if_pos hmax]
  · rw [if_neg hmax]
    cases reserved with
    | true => rw [readFrom_whole (Nat.le_of_not_lt hmax)]
    | false =>
      -- the error is fatal, so what is left on the stream is not read
      have hfatal : ¬ channel.goesOn protocol (frame.incoming maxlen false) := fun hgoes =>
        Bool.false_ne_true (reserved_of_goesOn (Nat.le_of_not_lt hmax) hgoes)
      rw [readFrom_noMemory (Nat.le_of_not_lt hmax)]
      simp only [if_neg hfatal]

/-- Less than a header is no turn. -/
theorem run_eq_nil_iff {stream : Stream} :
    channel.run protocol maxlen (reserved :: turns) stream = [] ↔
      stream.bytes.length < Message.headerSize := by
  rw [Channel.run]
  split
  · simpa
  · rename_i hheader
    split <;> simpa using hheader

/-- A turn starts with what is left of the stream. -/
theorem left_of_run {stream : Stream} {turn : Turn} {more : List Turn}
    (h : channel.run protocol maxlen turns stream = turn :: more) :
    turn.left = stream.bytes.length := by
  cases turns with
  | nil => cases h
  | cons reserved turns =>
    rw [Channel.run] at h
    split at h
    · cases h
    · split at h <;> rw [← (List.cons.inj h).1]

/-- As long as no message is over the limit the loop keeps to the headers. -/
theorem run_eq_inOrder (h : Harmless channel protocol maxlen frames) :
    channel.run protocol maxlen turns ⟨sent frames, ending⟩ =
      channel.inOrder protocol maxlen turns frames := by
  induction frames generalizing turns with
  | nil => cases turns <;> rfl
  | cons frame frames ih =>
    cases turns with
    | nil => rfl
    | cons reserved turns =>
      rw [run_cons, Channel.inOrder]
      refine congrArg (_ :: ·) (ite_congr rfl ?_ fun _ => rfl)
      intro hgoes
      by_cases hmax : maxlen < frame.payload.length
      · obtain ⟨rfl, hshort⟩ := h [] frame frames rfl nofun hmax
        rw [if_pos hmax]
        cases turns with
        | nil => rfl
        | cons reserved turns => exact run_eq_nil_iff.mpr (by simpa [sent] using hshort)
      · rw [if_neg hmax]
        obtain rfl := reserved_of_goesOn (Nat.le_of_not_lt hmax) hgoes
        exact ih (h.tail (Nat.le_of_not_lt hmax) hgoes)

/-- A message over the limit that is not the last, or holds a header, puts the loop off. -/
theorem harmless_of_run_eq
    (h : ∀ turns, channel.run protocol maxlen turns ⟨sent frames, ending⟩ =
      channel.inOrder protocol maxlen turns frames) :
    Harmless channel protocol maxlen frames := by
  intro before frame after hframes hbefore hmax
  induction before generalizing frames with
  | nil =>
    obtain rfl : frames = frame :: after := hframes
    have hturns := h [true, true]
    rw [run_cons, Channel.inOrder] at hturns
    have hnext := (List.cons.inj hturns).2
    rw [if_pos (goesOn_tooLarge hmax), if_pos (goesOn_tooLarge hmax), if_pos hmax] at hnext
    cases after with
    | nil => exact ⟨rfl, by simpa [sent] using run_eq_nil_iff.mp hnext⟩
    | cons next after =>
      -- both loops read on, at different places
      have hleft := left_of_run hnext
      simp only [List.length_append] at hleft
      omega
  | cons earlier before ih =>
    obtain rfl : frames = earlier :: (before ++ frame :: after) := hframes
    obtain ⟨⟨hwithin, hgoes⟩, hrest⟩ := List.forall_mem_cons.mp hbefore
    refine ih (fun turns => ?_) rfl hrest
    have hturns := h (true :: turns)
    rw [run_cons, Channel.inOrder] at hturns
    have hnext := (List.cons.inj hturns).2
    rwa [if_pos hgoes, if_pos hgoes, if_neg (Nat.not_lt.mpr hwithin)] at hnext

end

/-- A channel reads the messages sent to it one after the other, each from its own header, whatever
their types and sizes, exactly when it comes to none over the limit that more bytes follow. -/
theorem channel_keeps_to_headers_iff (channel : Channel) (protocol : UInt16) (maxlen : Nat)
    (frames : List Frame) (ending : StreamEnd) :
    (∀ turns, channel.run protocol maxlen turns ⟨sent frames, ending⟩ =
      channel.inOrder protocol maxlen turns frames) ↔
    Harmless channel protocol maxlen frames :=
  ⟨harmless_of_run_eq, fun h _ => run_eq_inOrder h⟩

/-- A message one byte over a limit of sixteen, whose payload is itself a trigger message and a byte:
the trigger is read and the message after it is not. -/
def nestedTrigger : Frame :=
  { messageType := MessageType.data.getMessageType
    controlCode := 0
    messageParameter := 0
    payload := Message.writeTo ⟨.trigger, 0, 2, []⟩ ++ [0]
    fits := by decide }

theorem payload_read_as_header :
    (Channel.sync.run protocol20 16 [true, true] ⟨sent [nestedTrigger], .eof⟩).map Turn.incoming =
      [.ok (.error (.nonFatal .messageTooLarge "message payload too large")),
        .ok (.ok ⟨.trigger, 0, 2, []⟩)] ∧
    Channel.sync.run protocol20 16 [true, true] ⟨sent [nestedTrigger], .eof⟩ ≠
      Channel.sync.inOrder protocol20 16 [true, true] [nestedTrigger] := by
  refine ⟨rfl, ?_⟩
  intro h
  have hlength := congrArg List.length h
  revert hlength
  decide

end Ugpibd.Hislip
