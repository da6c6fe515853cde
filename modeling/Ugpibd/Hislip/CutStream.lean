import Ugpibd.Hislip.SyncChannel

/-! What the instrument is given when a client's stream ends early: in a header, in a payload, or
between two messages. -/
namespace Ugpibd.Hislip
open Library Vxi11

/-- What the loop has the instrument do. -/
inductive Given
  | command (cmd : List UInt8)
  | trigger
  deriving DecidableEq, Repr

/-- What a task is about to have it do. -/
def SyncTask.asks : SyncTask → Option Given
  | .executing _ cmd => some (.command cmd)
  | .triggering => some .trigger
  | _ => none

/-- After these the loop reads no more. -/
def SyncTask.closing : SyncTask → Bool
  | .writing _ ends => ends
  | .ended => true
  | _ => false

/-- What reading the stream comes to. -/
def SyncAction.ofStream : SyncAction → Bool
  | .receive _ | .readError _ | .disconnected => true
  | _ => false

def SyncAction.gives (task : SyncTask) : SyncAction → List Given
  | .executed _ | .triggered => task.asks.toList
  | _ => []

theorem SyncAction.asks_of_mem_gives {task : SyncTask} {a : SyncAction} {g : Given}
    (h : g ∈ a.gives task) : task.asks = some g := by
  unfold gives at h
  split at h
  · exact Option.mem_toList.mp h
  · exact Option.mem_toList.mp h
  · cases h

/-- The synchronous channel with the stream it reads. What the instrument was given, newest first,
is not part of the program. -/
structure Wired where
  stream : Stream
  channel : SyncChannel
  given : List Given := []

/-- A read, with memory for the payload or without, or anything else that happens to the channel. -/
inductive WiredAction
  | read (reserved : Bool)
  | other (a : SyncAction)

namespace Wired

def start (config : SessionConfig) (stream : Stream) : Wired where
  stream := stream
  channel := .start config

def readStep (config : SessionConfig) (w : Wired) :
    Except ReadError (Except Error Message × Stream) → Option Wired
  | .error _ => (w.channel.step config .disconnected).map fun channel => { w with channel }
  | .ok (.error e, stream) =>
    (w.channel.step config (.readError e)).map fun channel => { w with stream, channel }
  | .ok (.ok msg, stream) =>
    (w.channel.step config (.receive msg)).map fun channel => { w with stream, channel }

def step (config : SessionConfig) (w : Wired) : WiredAction → Option Wired
  | .read reserved =>
    w.readStep config (Message.readFrom config.maxMessageSize.toNat reserved w.stream)
  | .other a =>
    if a.ofStream then none
    else (w.channel.step config a).map fun channel =>
      { w with channel, given := a.gives w.channel.task ++ w.given }

end Wired

/-- Messages of a type. -/
def Frame.is (frame : Frame) (messageType : MessageType) : Bool :=
  MessageType.fromMessageType frame.messageType == some messageType

/-- The messages of which all is among the first `n` bytes. -/
def arrived : Nat → List Frame → List Frame
  | _, [] => []
  | n, frame :: frames =>
    if frame.encode.length ≤ n then frame :: arrived (n - frame.encode.length) frames else []

/-- The message in whose payload the stream ends after `n` bytes. -/
def cutShort : Nat → List Frame → Option Frame
  | _, [] => none
  | n, frame :: frames =>
    if frame.encode.length ≤ n then cutShort (n - frame.encode.length) frames
    else if Message.headerSize ≤ n then some frame else none

/-- The command that the Data messages among these begin. -/
def assembled (frames : List Frame) : List UInt8 :=
  (frames.filter (·.is .data)).flatMap Frame.payload

/-- These messages ask for it: a command is the Data messages from some point on and the first
DataEND after it. -/
def Asked (frames : List Frame) : Given → Prop
  | .command cmd => ∃ before since last after, frames = before ++ since ++ last :: after ∧
      (∀ frame ∈ since, ¬ frame.is .dataEnd) ∧ last.is .dataEnd ∧
      cmd = assembled since ++ last.payload
  | .trigger => ∃ frame ∈ frames, frame.is .trigger

/-- The stream breaks, or does not end in the payload of a message that is executed. -/
def EndsHarmlessly (frames : List Frame) (n : Nat) (ending : StreamEnd) : Prop :=
  ending = .ioError ∨ ∀ frame ∈ cutShort n frames, ¬ frame.is .dataEnd ∧ ¬ frame.is .trigger

namespace SyncChannel
section
variable {config : SessionConfig} {s s' : SyncChannel} {a : SyncAction} {msg : Message}

@[simp] theorem raiseServiceRequest_task (s : SyncChannel) (serviceRequest : Option UInt8) :
    (s.raiseServiceRequest serviceRequest).task = s.task := by
  cases serviceRequest <;> rfl

@[simp] theorem raiseServiceRequest_buffer (s : SyncChannel) (serviceRequest : Option UInt8) :
    (s.raiseServiceRequest serviceRequest).buffer = s.buffer := by
  cases serviceRequest <;> rfl

@[simp] theorem notePolled_buffer (s : SyncChannel) (stb : Option UInt8) :
    (s.notePolled stb).buffer = s.buffer := by
  cases stb <;> rfl

/-- An execution leaves the loop with nothing more for the instrument. -/
theorem executed_idle (s : SyncChannel) (requestId : UInt32) (result : Except String Execution) :
    (s.executed requestId result).buffer = s.buffer ∧
      (s.executed requestId result).task.asks = none := by
  unfold executed
  split <;> simp [SyncTask.asks]

/-- Only reading makes the loop ask for something new, or starts it reading again when it is
closing. -/
structure Quiet (s s' : SyncChannel) : Prop where
  buffer : s'.buffer = s.buffer
  asks : ∀ g, s'.task.asks = some g → s.task.asks = some g
  closing : s.task.closing → s'.task.closing

theorem Quiet.of_task (hbuffer : s'.buffer = s.buffer) (htask : s'.task = s.task) :
    Quiet s s' where
  buffer := hbuffer
  asks := by rw [htask]; exact fun _ => id
  closing := by rw [htask]; exact id

theorem Quiet.of_idle (hbuffer : s'.buffer = s.buffer) (hasks : s'.task.asks = none)
    (hclosing : s.task.closing → s'.task.closing) : Quiet s s' where
  buffer := hbuffer
  asks := by simp [hasks]
  closing := hclosing

theorem step_quiet (ha : ¬ a.ofStream) (hs : s.step config a = some s') : Quiet s s' := by
  cases step_effect hs with
  | receive | readError | disconnected => simp [SyncAction.ofStream] at ha
  | executed bus requestId cmd htask =>
    have hidle := executed_idle (s.notePolled (polledByExecute (queryHint cmd) bus)) requestId
      (execute (queryHint cmd) bus)
    refine .of_idle (by simpa using hidle.1) hidle.2 ?_
    simp [htask, SyncTask.closing]
  | beginReply requestId data serviceRequest htask =>
    exact .of_idle rfl rfl (by simp [htask, SyncTask.closing])
  | sendNext requestId piece rest serviceRequest htask =>
    exact .of_idle rfl rfl (by simp [htask, SyncTask.closing])
  | replied requestId serviceRequest htask =>
    exact .of_idle (by simp) (by simp [SyncTask.asks]) (by simp [htask, SyncTask.closing])
  | triggered htask => exact .of_idle rfl rfl (by simp [htask, SyncTask.closing])
  | written message ends htask =>
    cases ends with
    | true => exact .of_idle rfl rfl fun _ => rfl
    | false => exact .of_idle rfl rfl (by simp [htask, SyncTask.closing])
  | writeFailed => exact .of_idle rfl rfl fun _ => rfl
  | forwarderPolled stb _ => exact .of_task rfl rfl
  | statusQuery live messageId => exact .of_task rfl rfl
  | maximumMessageSize size => exact .of_task rfl rfl
  | asyncDeviceClear => exact .of_task rfl rfl

/-- What a message read makes of the loop. -/
inductive Took (s : SyncChannel) (msg : Message) (s' : SyncChannel) : Prop
  | dataEnd : msg.messageType = .dataEnd → s'.buffer = [] →
      s'.task.asks = some (.command (s.buffer ++ msg.payload)) → Took s msg s'
  | trigger : msg.messageType = .trigger → s'.buffer = s.buffer →
      s'.task.asks = some .trigger → Took s msg s'
  | data : msg.messageType = .data → s'.buffer = s.buffer ++ msg.payload →
      s'.task.asks = none → Took s msg s'
  | other : msg.messageType ≠ .dataEnd → msg.messageType ≠ .data → s'.buffer = s.buffer →
      s'.task.asks = none → Took s msg s'

theorem receive_took (config : SessionConfig) (msg : Message) (htask : s.task = .reading) :
    Took s msg (s.receive config msg) := by
  unfold receive
  split
  · rename_i htype
    exact .data htype rfl (by simp [note, htask, SyncTask.asks])
  · rename_i htype
    exact .dataEnd htype rfl rfl
  · rename_i htype
    exact .trigger htype rfl rfl
  · rename_i htype
    exact .other (by simp [htype]) (by simp [htype]) rfl rfl
  · rename_i htype
    exact .other (by simp [htype]) (by simp [htype]) rfl rfl
  · rename_i htype
    exact .other (by simp [htype]) (by simp [htype]) rfl (by simp [htask, SyncTask.asks])
  · rename_i hdata hend _ _ _ _
    split_ifs <;> exact .other hend hdata rfl rfl

end
end SyncChannel

section
variable {config : SessionConfig} {frames behind ahead : List Frame} {frame : Frame} {n left : Nat}
  {ending : StreamEnd} {g : Given} {w w' : Wired}

/-- What earlier messages ask for, all of them ask for. -/
theorem Asked.append (h : Asked behind g) (ahead : List Frame) : Asked (behind ++ ahead) g := by
  cases g with
  | command cmd =>
    obtain ⟨before, since, last, after, rfl, hsince, hlast, hcmd⟩ := h
    exact ⟨before, since, last, after ++ ahead, by simp, hsince, hlast, hcmd⟩
  | trigger =>
    obtain ⟨frame, hframe, htrigger⟩ := h
    exact ⟨frame, List.mem_append_left _ hframe, htrigger⟩

/-- The buffer holds the Data messages since some point after the last DataEND. -/
def Buffered (behind : List Frame) (buffer : List UInt8) : Prop :=
  ∃ before since, behind = before ++ since ∧ (∀ frame ∈ since, ¬ frame.is .dataEnd) ∧
    buffer = assembled since

theorem Buffered.nil (behind : List Frame) : Buffered behind [] :=
  ⟨behind, [], (List.append_nil _).symm, by simp, rfl⟩

/-- A message that is no DataEND adds its payload if it is Data. -/
theorem Buffered.snoc {buffer : List UInt8} (h : Buffered behind buffer)
    (hframe : ¬ frame.is .dataEnd) :
    Buffered (behind ++ [frame])
      (buffer ++ if frame.is .data then frame.payload else []) := by
  obtain ⟨before, since, rfl, hsince, rfl⟩ := h
  refine ⟨before, since ++ [frame], by simp, ?_, ?_⟩
  · intro other hother
    rcases List.mem_append.mp hother with hin | hin
    · exact hsince other hin
    · rwa [List.mem_singleton.mp hin]
  · by_cases hdata : frame.is .data <;> simp [assembled, hdata]

/-- A DataEND makes a command of it. -/
theorem Buffered.asked {buffer : List UInt8} (h : Buffered behind buffer)
    (hframe : frame.is .dataEnd) :
    Asked (behind ++ [frame]) (.command (buffer ++ frame.payload)) := by
  obtain ⟨before, since, rfl, hsince, rfl⟩ := h
  exact ⟨before, since, frame, [], by simp, hsince, hframe, rfl⟩

/-- A device clear empties the buffer or leaves it. -/
theorem Buffered.noticeClear {s : SyncChannel} (h : Buffered behind s.buffer) :
    Buffered behind s.noticeClear.buffer := by
  unfold SyncChannel.noticeClear
  split_ifs
  · exact .nil behind
  · exact h

/-- What a read comes to that begins at a message's header. -/
inductive Reading (maxlen : Nat) (ahead : List Frame) (left : Nat) (ending : StreamEnd) :
    Except ReadError (Except Error Message × Stream) → Prop
  | whole (frame : Frame) (rest : List Frame) : ahead = frame :: rest →
      frame.encode.length ≤ left →
      Reading maxlen ahead left ending (.ok (frame.incoming maxlen true,
        ⟨(sent rest).take (left - frame.encode.length), ending⟩))
  | part (frame : Frame) (k : Nat) : frame ∈ ahead → cutShort left ahead = some frame →
      ending = .eof →
      Reading maxlen ahead left ending (.ok ((frame.cut k).incoming maxlen true, ⟨[], .eof⟩))
  | gone (e : ReadError) : Reading maxlen ahead left ending (.error e)
  | fatal (e : Error) (stream : Stream) : e.isFatal →
      Reading maxlen ahead left ending (.ok (.error e, stream))

/-- Less than a header ends the loop. -/
theorem readFrom_short {maxlen : Nat} {reserved : Bool} {stream : Stream}
    (h : stream.bytes.length < Message.headerSize) :
    Message.readFrom maxlen reserved stream = .error stream.ending.error := by
  have hread : stream.readExact Message.headerSize = .error stream.ending.error :=
    Stream.readExact_short h
  rw [Message.readFrom, hread]

theorem reading {maxlen : Nat} (left : Nat) (ending : StreamEnd) (reserved : Bool)
    (hmax : ∀ frame ∈ ahead, frame.payload.length ≤ maxlen) :
    Reading maxlen ahead left ending
      (Message.readFrom maxlen reserved ⟨(sent ahead).take left, ending⟩) := by
  cases ahead with
  | nil =>
    rw [readFrom_short (by simp [sent, Message.headerSize])]
    exact .gone _
  | cons frame rest =>
    have hframe := hmax frame List.mem_cons_self
    have hsize := frame.encode_length
    by_cases hwhole : frame.encode.length ≤ left
    · rw [sent_cons, List.take_append, List.take_of_length_le hwhole]
      cases reserved with
      | true =>
        rw [readFrom_whole hframe]
        exact .whole frame rest rfl hwhole
      | false =>
        rw [readFrom_noMemory hframe, Frame.incoming, if_neg (Nat.not_lt.mpr hframe)]
        exact .fatal _ _ rfl
    · have hcut : (sent (frame :: rest)).take left = frame.encode.take left := by
        rw [sent_cons, List.take_append_of_le_length (by omega)]
      rw [hcut]
      by_cases hheader : Message.headerSize ≤ left
      · -- the header is there and the payload is not
        have hpart : frame.encode.take left =
            frame.header ++ frame.payload.take (left - Message.headerSize) := by
          rw [Frame.encode, List.take_append, frame.header_length,
            List.take_of_length_le (by rw [frame.header_length]; exact hheader)]
          rfl
        have hshort : left - Message.headerSize < frame.payload.length := by
          rw [Message.headerSize] at hheader ⊢
          omega
        have hthis : cutShort left (frame :: rest) = some frame := by
          rw [cutShort, if_neg hwhole, if_pos hheader]
        rw [hpart]
        cases reserved with
        | false =>
          rw [readFrom_noMemory_header hframe, Frame.incoming, if_neg (Nat.not_lt.mpr hframe)]
          exact .fatal _ _ rfl
        | true =>
          rw [readFrom_cut hframe hshort]
          cases ending with
          | eof => exact .part frame _ List.mem_cons_self hthis rfl
          | ioError => exact .gone _
      · rw [readFrom_short (by simp only [List.length_take]; omega)]
        exact .gone _

/-- Where the loop is in what was sent: `behind` is read, and of `ahead` the first `left` bytes are
still to come. -/
structure Placed (config : SessionConfig) (frames : List Frame) (n : Nat) (ending : StreamEnd)
    (w : Wired) (behind ahead : List Frame) (left : Nat) : Prop where
  stream : w.stream = ⟨(sent ahead).take left, ending⟩
  arrived : arrived n frames = behind ++ arrived left ahead
  cut : cutShort n frames = cutShort left ahead
  within : ∀ frame ∈ ahead, frame.payload.length ≤ config.maxMessageSize.toNat
  buffer : Buffered behind w.channel.buffer

/-- Once the loop has read past the last whole message it finds the stream empty, or reads no
more. -/
structure Heard (config : SessionConfig) (frames : List Frame) (n : Nat) (ending : StreamEnd)
    (w : Wired) : Prop where
  given : ∀ g ∈ w.given, Asked (arrived n frames) g
  asks : ∀ g, w.channel.task.asks = some g → Asked (arrived n frames) g
  place : (∃ behind ahead left, Placed config frames n ending w behind ahead left) ∨
    w.stream.bytes = [] ∨ w.channel.task.closing

theorem frame_is_iff {messageType : MessageType} :
    frame.is messageType ↔ MessageType.fromMessageType frame.messageType = some messageType :=
  beq_iff_eq

/-- A message within the limit is of a type the server knows or is an error that ends nothing. -/
theorem incoming_cases {maxlen : Nat} (hmax : frame.payload.length ≤ maxlen) :
    (∃ msg, frame.incoming maxlen true = .ok msg ∧ msg.payload = frame.payload ∧
      ∀ messageType, frame.is messageType ↔ msg.messageType = messageType) ∨
    ∃ e, frame.incoming maxlen true = .error e ∧ ∀ messageType, ¬ frame.is messageType := by
  rw [Frame.incoming, if_neg (Nat.not_lt.mpr hmax), if_neg (by simp)]
  simp only [frame_is_iff]
  cases hknown : MessageType.fromMessageType frame.messageType with
  | some known => exact .inl ⟨_, rfl, rfl, by simp⟩
  | none => exact .inr ⟨_, rfl, by simp⟩

/-- The loop takes a whole message as what it is. -/
theorem SyncChannel.Took.heard {s s' : SyncChannel} {msg : Message} (h : Took s msg s')
    (hbuffer : Buffered behind s.buffer) (hpayload : msg.payload = frame.payload)
    (hframe : ∀ messageType, frame.is messageType ↔ msg.messageType = messageType) :
    Buffered (behind ++ [frame]) s'.buffer ∧
      ∀ g, s'.task.asks = some g → Asked (behind ++ [frame]) g := by
  cases h with
  | dataEnd htype hempty hasks =>
    refine ⟨hempty ▸ .nil _, ?_⟩
    intro g hg
    obtain rfl := Option.some.inj (hasks.symm.trans hg)
    exact hpayload ▸ hbuffer.asked ((hframe _).mpr htype)
  | trigger htype hsame hasks =>
    have hnoEnd : ¬ frame.is .dataEnd := by simp [hframe, htype]
    have hnoData : ¬ frame.is .data := by simp [hframe, htype]
    refine ⟨by simpa [hsame, hnoData] using hbuffer.snoc hnoEnd, ?_⟩
    intro g hg
    obtain rfl := Option.some.inj (hasks.symm.trans hg)
    exact ⟨frame, by simp, (hframe _).mpr htype⟩
  | data htype hmore hasks =>
    have hnoEnd : ¬ frame.is .dataEnd := by simp [hframe, htype]
    have hdata : frame.is .data := (hframe _).mpr htype
    exact ⟨by simpa [hmore, hdata, hpayload] using hbuffer.snoc hnoEnd, by simp [hasks]⟩
  | other hend hother hsame hasks =>
    have hnoEnd : ¬ frame.is .dataEnd := by simpa [hframe] using hend
    have hnoData : ¬ frame.is .data := by simpa [hframe] using hother
    exact ⟨by simpa [hsame, hnoData] using hbuffer.snoc hnoEnd, by simp [hasks]⟩

theorem arrived_whole {rest : List Frame} (h : frame.encode.length ≤ left) :
    arrived left (frame :: rest) = frame :: arrived (left - frame.encode.length) rest :=
  if_pos h

theorem cutShort_whole {rest : List Frame} (h : frame.encode.length ≤ left) :
    cutShort left (frame :: rest) = cutShort (left - frame.encode.length) rest :=
  if_pos h

namespace Placed

theorem arrived_next {rest : List Frame}
    (h : Placed config frames n ending w behind (frame :: rest) left)
    (hwhole : frame.encode.length ≤ left) :
    Hislip.arrived n frames =
      behind ++ [frame] ++ Hislip.arrived (left - frame.encode.length) rest := by
  rw [h.arrived, arrived_whole hwhole, List.append_assoc, List.singleton_append]

/-- The place after a whole message. -/
theorem next {rest : List Frame} (h : Placed config frames n ending w behind (frame :: rest) left)
    (hwhole : frame.encode.length ≤ left)
    (hstream : w'.stream = ⟨(sent rest).take (left - frame.encode.length), ending⟩)
    (hbuffer : Buffered (behind ++ [frame]) w'.channel.buffer) :
    Placed config frames n ending w' (behind ++ [frame]) rest (left - frame.encode.length) where
  stream := hstream
  arrived := h.arrived_next hwhole
  cut := h.cut.trans (cutShort_whole hwhole)
  within := fun other hother => h.within other (List.mem_cons_of_mem _ hother)
  buffer := hbuffer

end Placed

namespace Wired

/-- What a read makes of a loop that is reading. -/
inductive ReadEffect (config : SessionConfig) (w : Wired) :
    Except ReadError (Except Error Message × Stream) → Wired → Prop
  | gone (e : ReadError) :
      ReadEffect config w (.error e) { w with channel := { w.channel with task := .ended } }
  | wrong (e : Error) (stream : Stream) : ReadEffect config w (.ok (.error e, stream)) { w with
      stream := stream
      channel := { w.channel with task := .writing (.ofError e) e.isFatal } }
  | message (msg : Message) (stream : Stream) : ReadEffect config w (.ok (.ok msg, stream)) { w with
      stream := stream
      channel := w.channel.noticeClear.receive config msg }

theorem readStep_effect {result : Except ReadError (Except Error Message × Stream)}
    (hs : w.readStep config result = some w') :
    w.channel.task = .reading ∧ ReadEffect config w result w' := by
  rcases result with e | ⟨e | msg, stream⟩
  all_goals
    obtain ⟨channel, hstep, rfl⟩ := Option.map_eq_some_iff.mp hs
    cases SyncChannel.step_effect hstep
    refine ⟨‹_›, ?_⟩
  · exact .gone e
  · exact .wrong e stream
  · exact .message msg stream

end Wired

namespace Heard

theorem of_idle (h : Heard config frames n ending w) (hgiven : w'.given = w.given)
    (hidle : w'.channel.task.asks = none)
    (hplace : (∃ behind ahead left, Placed config frames n ending w' behind ahead left) ∨
      w'.stream.bytes = [] ∨ w'.channel.task.closing) : Heard config frames n ending w' where
  given := hgiven ▸ h.given
  asks := by simp [hidle]
  place := hplace

/-- A message that came whole. -/
theorem whole {rest : List Frame} (h : Heard config frames n ending w)
    (hplaced : Placed config frames n ending w behind (frame :: rest) left)
    (hwhole : frame.encode.length ≤ left) (hreading : w.channel.task = .reading)
    (heffect : w.ReadEffect config (.ok (frame.incoming config.maxMessageSize.toNat true,
      ⟨(sent rest).take (left - frame.encode.length), ending⟩)) w') :
    Heard config frames n ending w' := by
  rcases incoming_cases (hplaced.within frame List.mem_cons_self) with
    ⟨msg, hmsg, hpayload, htype⟩ | ⟨e, he, htype⟩
  · rw [hmsg] at heffect
    cases heffect
    have hnotice : w.channel.noticeClear.task = .reading :=
      (SyncChannel.noticeClear_task _).trans hreading
    obtain ⟨hbuffer, hasks⟩ := (SyncChannel.receive_took config msg hnotice).heard
      hplaced.buffer.noticeClear hpayload htype
    exact {
      given := h.given
      asks := fun g hg => hplaced.arrived_next hwhole ▸ (hasks g hg).append _
      place := .inl ⟨_, _, _, hplaced.next hwhole rfl hbuffer⟩ }
  · rw [he] at heffect
    cases heffect
    have hbuffer := hplaced.buffer.snoc (htype .dataEnd)
    rw [if_neg (htype .data), List.append_nil] at hbuffer
    exact h.of_idle rfl rfl (.inl ⟨_, _, _, hplaced.next hwhole rfl hbuffer⟩)

/-- A message that came in part and is not one that is executed. -/
theorem part (frame : Frame) (h : Heard config frames n ending w)
    (hreading : w.channel.task = .reading)
    (hmax : frame.payload.length ≤ config.maxMessageSize.toNat)
    (hend : ¬ frame.is .dataEnd) (htrigger : ¬ frame.is .trigger)
    (heffect : w.ReadEffect config
      (.ok (frame.incoming config.maxMessageSize.toNat true, ⟨[], .eof⟩)) w') :
    Heard config frames n ending w' := by
  rcases incoming_cases hmax with ⟨msg, hmsg, -, htype⟩ | ⟨e, he, -⟩
  · rw [hmsg] at heffect
    cases heffect
    refine h.of_idle rfl ?_ (.inr (.inl rfl))
    have hnotice : w.channel.noticeClear.task = .reading :=
      (SyncChannel.noticeClear_task _).trans hreading
    rcases SyncChannel.receive_took config msg hnotice with
      ⟨hthis, -, -⟩ | ⟨hthis, -, -⟩ | ⟨-, -, hidle⟩ | ⟨-, -, -, hidle⟩
    · exact absurd ((htype _).mpr hthis) hend
    · exact absurd ((htype _).mpr hthis) htrigger
    · exact hidle
    · exact hidle
  · rw [he] at heffect
    cases heffect
    exact h.of_idle rfl rfl (.inr (.inl rfl))

/-- A read that finds the connection gone. -/
theorem gone {e : ReadError} (h : Heard config frames n ending w)
    (heffect : w.ReadEffect config (.error e) w') : Heard config frames n ending w' := by
  cases heffect
  exact h.of_idle rfl rfl (.inr (.inr rfl))

theorem read (h : Heard config frames n ending w) {reserved : Bool}
    (hends : EndsHarmlessly frames n ending) (hs : w.step config (.read reserved) = some w') :
    Heard config frames n ending w' := by
  obtain ⟨hreading, heffect⟩ := Wired.readStep_effect hs
  obtain ⟨behind, ahead, left, hplaced⟩ | hempty | hclosing := h.place
  · have hread := reading left ending reserved hplaced.within
    rw [← hplaced.stream] at hread
    generalize Message.readFrom config.maxMessageSize.toNat reserved w.stream = result
      at hread heffect
    cases hread with
    | whole frame rest hahead hwhole =>
      subst hahead
      exact h.whole hplaced hwhole hreading heffect
    | part frame k hframe hcut heof =>
      obtain hbroken | hharmless := hends
      · cases heof.symm.trans hbroken
      · obtain ⟨hend, htrigger⟩ := hharmless frame (hplaced.cut.trans hcut)
        have hmax : (frame.cut k).payload.length ≤ config.maxMessageSize.toNat :=
          (List.length_take_le' k _).trans (hplaced.within frame hframe)
        exact part (frame.cut k) h hreading hmax hend htrigger heffect
    | gone e => exact h.gone heffect
    | fatal e stream he =>
      cases heffect
      exact h.of_idle rfl rfl (.inr (.inr he))
  · rw [readFrom_short (by simp [hempty, Message.headerSize])] at heffect
    exact h.gone heffect
  · simp [hreading, SyncTask.closing] at hclosing

theorem other {a : SyncAction} (h : Heard config frames n ending w)
    (hs : w.step config (.other a) = some w') : Heard config frames n ending w' := by
  rw [Wired.step] at hs
  split_ifs at hs with ha
  obtain ⟨channel, hstep, rfl⟩ := Option.map_eq_some_iff.mp hs
  have hquiet := SyncChannel.step_quiet ha hstep
  refine ⟨?_, fun g hg => h.asks g (hquiet.asks g hg), ?_⟩
  · intro g hg
    rcases List.mem_append.mp hg with hnew | hold
    · exact h.asks g (SyncAction.asks_of_mem_gives hnew)
    · exact h.given g hold
  · obtain ⟨behind, ahead, left, hplaced⟩ | hempty | hclosing := h.place
    · exact .inl ⟨behind, ahead, left, hplaced.stream, hplaced.arrived, hplaced.cut,
        hplaced.within, hquiet.buffer ▸ hplaced.buffer⟩
    · exact .inr (.inl hempty)
    · exact .inr (.inr (hquiet.closing hclosing))

end Heard

theorem heard (hmax : ∀ frame ∈ frames, frame.payload.length ≤ config.maxMessageSize.toNat)
    (hends : EndsHarmlessly frames n ending)
    (h : Reach (Wired.step config) anyStep
      (.start config ⟨(sent frames).take n, ending⟩) w) : Heard config frames n ending w := by
  refine h.invariant (P := Heard config frames n ending) ?_ ?_
  · refine ⟨by simp [Wired.start], by simp [Wired.start, SyncChannel.start, SyncTask.asks], .inl ?_⟩
    exact ⟨[], frames, n, rfl, rfl, rfl, hmax, .nil _⟩
  · intro w a w' hw _ hs
    cases a with
    | read reserved => exact hw.read hends hs
    | other a => exact hw.other hs

end

/-- Wherever the stream ends, with a broken connection or outside the payloads of DataEND and
Trigger: the instrument is given only what messages that came whole ask for. -/
theorem given_in_full (config : SessionConfig) (frames : List Frame) (n : Nat) (ending : StreamEnd)
    (hmax : ∀ frame ∈ frames, frame.payload.length ≤ config.maxMessageSize.toNat)
    (hends : EndsHarmlessly frames n ending) (w : Wired)
    (h : Reach (Wired.step config) anyStep (.start config ⟨(sent frames).take n, ending⟩) w) :
    ∀ g ∈ w.given, Asked (arrived n frames) g :=
  (heard hmax hends h).given

/-- `VOLT 100` in one message. -/
def voltFrame : Frame where
  messageType := 7
  controlCode := 0
  messageParameter := 0xffffff00
  payload := [0x56, 0x4f, 0x4c, 0x54, 0x20, 0x31, 0x30, 0x30]
  fits := by decide

def smallSession : SessionConfig where
  protocol := 0x0100
  maxMessageSize := 1024

/-- Two of them of which the second is cut in its header: the instrument is given the first. -/
theorem given_in_full_cutHeader :
    ∃ w, Reach (Wired.step smallSession) anyStep
        (.start smallSession ⟨(sent [voltFrame, voltFrame]).take 30, .eof⟩) w ∧
      w.given = [.command voltFrame.payload] ∧
      ∀ g ∈ w.given, Asked (arrived 30 [voltFrame, voltFrame]) g := by
  obtain ⟨w, hreach, htest⟩ := exists_reach_of_exec (Wired.step smallSession)
    (.start smallSession ⟨(sent [voltFrame, voltFrame]).take 30, .eof⟩)
    (fun w => decide (w.given = [.command voltFrame.payload]))
    [.read true, .other (.executed {}), .read true] (by decide +kernel)
  refine ⟨w, hreach, of_decide_eq_true htest, ?_⟩
  refine given_in_full smallSession [voltFrame, voltFrame] 30 .eof (by decide) (.inr ?_) w hreach
  simp [cutShort, Message.headerSize, voltFrame]

/-- One of them, closed one byte before its end: the instrument is given `VOLT 10`, though no
message came whole. -/
theorem cut_command_executed :
    ∃ w, Reach (Wired.step smallSession) anyStep
        (.start smallSession ⟨(sent [voltFrame]).take 23, .eof⟩) w ∧
      arrived 23 [voltFrame] = [] ∧
      Given.command [0x56, 0x4f, 0x4c, 0x54, 0x20, 0x31, 0x30] ∈ w.given ∧
      ¬ ∀ g ∈ w.given, Asked (arrived 23 [voltFrame]) g := by
  obtain ⟨w, hreach, htest⟩ := exists_reach_of_exec (Wired.step smallSession)
    (.start smallSession ⟨(sent [voltFrame]).take 23, .eof⟩)
    (fun w => decide (Given.command [0x56, 0x4f, 0x4c, 0x54, 0x20, 0x31, 0x30] ∈ w.given))
    [.read true, .other (.executed {})] (by decide +kernel)
  have hgiven := of_decide_eq_true htest
  refine ⟨w, hreach, rfl, hgiven, ?_⟩
  intro hall
  obtain ⟨before, since, last, after, hnone, -⟩ := hall _ hgiven
  simp [arrived, voltFrame] at hnone

end Ugpibd.Hislip
