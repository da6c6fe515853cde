import Ugpibd.Vxi11.BusSettings

/-! The transfers an operation makes on the bus, each with what the backend gave for it. A backend that
keeps a log of them behaves as it does without. -/
namespace Ugpibd.Vxi11.BusSettings
open Library Backend Messages

/-- A write as the backend is asked for it, to an address or to whoever listens. One without a result is
still waited for. -/
structure Send where
  pad : Option UInt8
  chunk : List UInt8
  sendEoi : Bool
  result : Option (Except Text Unit)

/-- A read as the backend is asked for it, with what it told its transport meanwhile. -/
structure Receive (P : Type) where
  pad : Option UInt8
  maxLen : Nat
  result : Option (Except Text Received)
  passed : List P

inductive Transfer (P : Type)
  | send (s : Send)
  | receive (r : Receive P)

variable {C P E α β : Type}

def Transfer.receive? : Transfer P → Option (Receive P)
  | .receive r => some r
  | .send _ => none

theorem filterMap_receive? (receives : List (Receive P)) :
    (receives.map .receive).filterMap Transfer.receive? = receives := by
  rw [List.filterMap_map]
  exact List.filterMap_some

/-- What a call adds to the log. -/
def entry (passed : List P) : BusRequest α → Option (Except Text α) → List (Transfer P)
  | .write pad data sendEoi, result => [.send ⟨some pad, data, sendEoi, result⟩]
  | .sendDataUnaddressed data sendEoi, result => [.send ⟨none, data, sendEoi, result⟩]
  | .read pad maxLen, result => [.receive ⟨some pad, maxLen, result, passed⟩]
  | .readUnaddressed maxLen, result => [.receive ⟨none, maxLen, result, passed⟩]
  | _, _ => []

/-- What a call on the port adds to the log. -/
def entryOf (backend : GpibBackend C P E) (inputs : PollInputs) (r : BusRequest α) (port : Port C P E) :
    List (Transfer P) :=
  entry (Operation.sentBy (backend.request inputs r) port) r ((backend.request inputs r).exec port).1

/-- The port without its log, and with one. -/
def plain (port : Port (C × List (Transfer P)) P E) : Port C P E :=
  ⟨port.ctrl.1, port.answers, port.sent⟩

def withLog (port : Port C P E) (log : List (Transfer P)) : Port (C × List (Transfer P)) P E :=
  ⟨(port.ctrl, log), port.answers, port.sent⟩

/-- The backend with a log of its transfers, oldest first. -/
def logged (backend : GpibBackend C P E) : GpibBackend (C × List (Transfer P)) P E where
  settings c := backend.settings c.1
  setEos eosChar enabled c := (backend.setEos eosChar enabled c.1, c.2)
  setTimeout timeoutMs c := (backend.setTimeout timeoutMs c.1, c.2)
  controllerPad c := backend.controllerPad c.1
  readSliceMs := backend.readSliceMs
  request inputs r := ExceptT.mk (OptionT.mk fun port =>
    let (result, after) := (backend.request inputs r).exec (plain port)
    (result, withLog after (port.ctrl.2 ++ entryOf backend inputs r (plain port))))
  settings_setEos eosChar eosEnabled c := backend.settings_setEos eosChar eosEnabled c.1
  settings_setTimeout timeoutMs c := backend.settings_setTimeout timeoutMs c.1
  request_keeps inputs r s := by
    intro port hport
    exact Interruptible.Leaves.of_state (backend.request_keeps inputs r s (plain port) hport).state

variable {backend : GpibBackend C P E} {inputs : PollInputs} {config : Config}

def Held.plain (held : Held (C × List (Transfer P)) P E) : Held C P E :=
  ⟨BusSettings.plain held.port, held.reads⟩

/-- The one program does with a log what the other does without. -/
def Follows (p : Tenure (C × List (Transfer P)) P E α) (q : Tenure C P E α) : Prop :=
  ∀ held, q.exec held.plain = ((p.exec held).1, (p.exec held).2.plain)

theorem follows_pure {a : α} : Follows (C := C) (P := P) (E := E) (pure a) (pure a) := fun _ => rfl

theorem follows_dropped :
    Follows (C := C) (P := P) (E := E) (Interruptible.dropped (α := α)) Interruptible.dropped :=
  fun _ => rfl

theorem Follows.bind {p : Tenure (C × List (Transfer P)) P E α} {q : Tenure C P E α}
    {f : α → Tenure (C × List (Transfer P)) P E β} {g : α → Tenure C P E β} (h : Follows p q)
    (hf : ∀ a, Follows (f a) (g a)) : Follows (p >>= f) (q >>= g) := by
  intro held
  rw [Interruptible.exec_bind, Interruptible.exec_bind, h held]
  match p.exec held with
  | (some (.ok a), after) => exact hf a after
  | (none, after) => rfl

theorem follows_request {r : BusRequest α} :
    Follows (request (logged backend) inputs r) (request backend inputs r) := fun _ => rfl

theorem follows_setTimeout {timeoutMs : Nat} :
    Follows (setTimeout (logged backend) timeoutMs) (setTimeout backend timeoutMs) := fun _ => rfl

theorem follows_setEos {eosChar : UInt8} {enabled : Bool} :
    Follows (setEos (logged backend) eosChar enabled) (setEos backend eosChar enabled) := fun _ => rfl

theorem follows_eos : Follows (eos (logged backend)) (eos backend) := fun _ => rfl

theorem follows_receive {r : BusRequest Received} :
    Follows (receive (logged backend) inputs r) (receive backend inputs r) := fun _ => rfl

/-- Every call is logged as it ends, and so is one that does not. -/
theorem request_logs {r : BusRequest α} {log : List (Transfer P)}
    {L : Option (Except Text α) → List (Transfer P) → Prop}
    (h : ∀ port, L ((backend.request inputs r).exec port).1 (log ++ entryOf backend inputs r port)) :
    Interruptible.Ends (fun held => held.port.ctrl.2 = log) (request (logged backend) inputs r)
      (fun result held => L (some result) held.port.ctrl.2) (fun held => L none held.port.ctrl.2) := by
  intro held hlog
  have hexec : (request (logged backend) inputs r).exec held =
      (((backend.request inputs r).exec (plain held.port)).1.map .ok,
        ⟨withLog ((backend.request inputs r).exec (plain held.port)).2
          (held.port.ctrl.2 ++ entryOf backend inputs r (plain held.port)), held.reads⟩) := rfl
  have hentry := h (plain held.port)
  rw [hexec, hlog]
  match (backend.request inputs r).exec (plain held.port), hentry with
  | (some _, _), hentry => exact hentry
  | (none, _), hentry => exact hentry

theorem receive_logs {r : BusRequest Received} {log : List (Transfer P)}
    {L : Option (Except Text Received) → List (Transfer P) → Prop}
    (h : ∀ port, L ((backend.request inputs r).exec port).1 (log ++ entryOf backend inputs r port)) :
    Interruptible.Ends (fun held => held.port.ctrl.2 = log) (receive (logged backend) inputs r)
      (fun result held => L (some result) held.port.ctrl.2) (fun held => L none held.port.ctrl.2) := by
  intro held hlog
  have hexec : (receive (logged backend) inputs r).exec held =
      (request (logged backend) inputs r).exec
        { held with reads := ((backend.settings held.port.ctrl.1).eosChar,
          (backend.settings held.port.ctrl.1).eosEnabled) :: held.reads } := rfl
  rw [hexec]
  exact request_logs h _ hlog

/-- Settings are not logged. -/
theorem setTimeout_logs {timeoutMs : Nat} {L : List (Transfer P) → Prop}
    {R : Held (C × List (Transfer P)) P E → Prop} :
    Interruptible.Ends (fun held => L held.port.ctrl.2) (setTimeout (logged backend) timeoutMs)
      (fun _ held => L held.port.ctrl.2) R := fun _ hlog => hlog

theorem setEos_logs {eosChar : UInt8} {enabled : Bool} {L : List (Transfer P) → Prop}
    {R : Held (C × List (Transfer P)) P E → Prop} :
    Interruptible.Ends (fun held => L held.port.ctrl.2) (setEos (logged backend) eosChar enabled)
      (fun _ held => L held.port.ctrl.2) R := fun _ hlog => hlog

theorem setTerminator_logs {saved : UInt8 × Bool} {termchr : Option UInt8} {L : List (Transfer P) → Prop}
    {R : Held (C × List (Transfer P)) P E → Prop} :
    Interruptible.Ends (fun held => L held.port.ctrl.2)
      (setTerminator (logged backend) saved termchr) (fun _ held => L held.port.ctrl.2) R := by
  cases termchr with
  | none => exact setEos_logs
  | some _ => exact setEos_logs

theorem eos_logs {L : List (Transfer P) → Prop} {R : Held (C × List (Transfer P)) P E → Prop} :
    Interruptible.Ends (fun held => L held.port.ctrl.2) (eos (logged backend))
      (fun _ held => L held.port.ctrl.2) R := fun _ hlog => hlog

theorem follows_writeLoop {link : Link} {data : List UInt8} {sendEoi : Bool} {looks : List Look}
    {written : Nat} : Follows (writeLoop (logged backend) inputs link data sendEoi looks written)
      (writeLoop backend inputs link data sendEoi looks written) := by
  induction looks generalizing written with
  | nil => exact follows_dropped
  | cons look looks ih =>
    unfold writeLoop
    split
    · exact follows_pure
    split
    · exact follows_pure
    refine follows_setTimeout.bind fun _ => follows_request.bind fun sent => ?_
    cases sent with
    | ok _ =>
      dsimp only
      split
      · exact follows_pure
      · exact ih
    | error _ => exact follows_pure

theorem follows_readLoop {call : DataCalls.ReadCall} {looks : List Look} {data : List UInt8} :
    Follows (readLoop (logged backend) inputs call looks data)
      (readLoop backend inputs call looks data) := by
  induction looks generalizing data with
  | nil => exact follows_dropped
  | cons look looks ih =>
    unfold readLoop
    split
    · exact follows_pure
    split
    · exact follows_pure
    refine follows_setTimeout.bind fun _ => follows_receive.bind fun attempt => ?_
    cases attempt with
    | ok received =>
      dsimp only
      split
      · exact follows_pure
      · exact ih
    | error _ =>
      dsimp only
      split
      · exact ih
      · exact follows_pure

theorem follows_deviceWrite {parms : DeviceWriteParms} {met : Circumstances} :
    Follows (deviceWrite (logged backend) config parms met) (deviceWrite backend config parms met) := by
  unfold deviceWrite
  split
  · exact follows_pure
  split
  · exact follows_pure
  exact follows_writeLoop.bind fun _ => follows_setTimeout.bind fun _ => follows_pure

theorem follows_deviceRead {parms : DeviceReadParms} {met : Circumstances} :
    Follows (deviceRead (logged backend) config parms met) (deviceRead backend config parms met) := by
  unfold deviceRead
  split
  · exact follows_pure
  split
  · exact follows_pure
  split
  · exact follows_pure
  refine follows_eos.bind fun saved => ?_
  have hterminator : Follows (setTerminator (logged backend) saved (termchr parms))
      (setTerminator backend saved (termchr parms)) := by
    cases termchr parms with
    | none => exact follows_setEos
    | some _ => exact follows_setEos
  refine hterminator.bind fun _ => follows_readLoop.bind fun reply => ?_
  exact follows_setEos.bind fun _ => follows_setTimeout.bind fun _ => follows_pure

end Ugpibd.Vxi11.BusSettings
