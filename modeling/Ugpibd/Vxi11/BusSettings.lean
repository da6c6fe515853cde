import Ugpibd.Backend.GpibBackend
import Ugpibd.Vxi11.DeviceRead
import Ugpibd.Vxi11.Docmd

/-! What the VXI-11 operations do to the backend's settings while they hold the bus. The terminator and
the timeout are the backend's own, shared with the other front ends: a call sets what it needs and puts
back what it found. -/
namespace Ugpibd.Vxi11.BusSettings
open Library Backend Messages DataCalls

/-- The bus, held. With which terminator the reads were made, newest first, is not part of the
program. -/
structure Held (C P E : Type) where
  port : Port C P E
  reads : List (UInt8 × Bool) := []
  deriving DecidableEq

/-- What runs while the bus is held. Failures of the backend are looked at, never passed on, and a
tenure that waits for ever has not given the bus up. -/
abbrev Tenure (C P E α : Type) := Interruptible (Held C P E) Empty α

variable {C P E α : Type} (backend : GpibBackend C P E) (inputs : PollInputs)

/-- One call of the backend. -/
def request (r : BusRequest α) : Tenure C P E (Except Text α) :=
  ExceptT.mk (OptionT.mk fun held =>
    let (result, port) := (backend.request inputs r).exec held.port
    (result.map .ok, { held with port }))

def update (f : C → C) : Tenure C P E Unit :=
  modify fun held => { held with port := { held.port with ctrl := f held.port.ctrl } }

def setEos (eosChar : UInt8) (enabled : Bool) : Tenure C P E Unit :=
  update (backend.setEos eosChar enabled)

def setTimeout (timeoutMs : Nat) : Tenure C P E Unit := update (backend.setTimeout timeoutMs)

def eos : Tenure C P E (UInt8 × Bool) := do
  let s := backend.settings (← get).port.ctrl
  return (s.eosChar, s.eosEnabled)

/-- A read, noted with the terminator it is made with. -/
def receive (r : BusRequest Received) : Tenure C P E (Except Text Received) := do
  let terminator ← eos backend
  modify fun held => { held with reads := terminator :: held.reads }
  request backend inputs r

/-- One look at the head of a transfer's loop: was the link aborted, and how much of the deadline is
left, in nanoseconds. -/
structure Look where
  aborted : Bool := false
  remaining : Nat
  deriving DecidableEq, Repr

structure Link where
  interface : Bool
  pad : UInt8
  deriving DecidableEq, Repr

/-- What an operation meets: the link of its client, the lock gate, the looks its loop makes, the abort
flag at its end, and the status byte a service request has left. -/
structure Circumstances where
  link : Option Link
  access : Except ErrorCode Unit := .ok ()
  looks : List Look := []
  abortedAtEnd : Bool := false
  consumedStb : Option UInt8 := none
  inputs : PollInputs := {}
  deriving DecidableEq

structure Config where
  defaultIoTimeoutMs : UInt32
  deriving DecidableEq, Repr

def opFlagEnd : UInt32 := 8

def asMillis (remaining : Nat) : Nat := remaining / 1000000

def steps : List Nat :=
  [300000, 100000, 30000, 10000, 3000, 1000, 300, 100, 30, 10, 3, 1]

/-- The largest step of the adapters' timeouts that the client allows. -/
def adapterFloorMs (remainingMs : Nat) : Nat := (steps.find? (· ≤ remainingMs)).getD 1

def sliceMs (readSliceMs : Option Nat) (remaining : Nat) : Nat :=
  let ms := asMillis remaining % 2 ^ 32
  match readSliceMs with
  | some slice => max 1 (min ms slice)
  | none => max ms 1

def effectiveTimeout (config : Config) (ioTimeoutMs : UInt32) : UInt32 :=
  if ioTimeoutMs = 0 then config.defaultIoTimeoutMs else ioTimeoutMs

/-- Only the first chunk is addressed. -/
def sendChunk (link : Link) (written : Nat) (chunk : List UInt8) (sendEoi : Bool) :
    Tenure C P E (Except Text Unit) :=
  request backend inputs (if link.interface || written ≠ 0 then .sendDataUnaddressed chunk sendEoi
    else .write link.pad chunk sendEoi)

def writeLoop (link : Link) (data : List UInt8) (sendEoi : Bool) :
    List Look → Nat → Tenure C P E (ErrorCode × Nat)
  | [], _ => Interruptible.dropped
  | look :: looks, written => do
    if look.aborted then pure (.abort, written)
    else if look.remaining = 0 then pure (.ioTimeout, written)
    else
      setTimeout backend (adapterFloorMs (asMillis look.remaining))
      let stop := min (written + writeChunk) data.length
      match ← sendChunk backend inputs link written ((data.take stop).drop written)
        (sendEoi && stop = data.length) with
      | .ok () =>
        if stop = data.length then pure (.noError, stop)
        else writeLoop link data sendEoi looks stop
      | .error e =>
        pure (if Looker.deviceWrite.takesForTimeout e then .ioTimeout else .ioError, written)

variable (config : Config)

def deviceWrite (parms : DeviceWriteParms) (met : Circumstances) : Tenure C P E DeviceWriteResp :=
  match met.link with
  | none => pure ⟨ErrorCode.invalidLinkIdentifier.asU32, 0⟩
  | some link => match met.access with
    | .error e => pure ⟨e.asU32, 0⟩
    | .ok () => do
      let (outcome, written) ← writeLoop backend met.inputs link parms.data
        (parms.flags &&& opFlagEnd ≠ 0) met.looks 0
      setTimeout backend config.defaultIoTimeoutMs.toNat
      let error := if outcome = .noError ∧ met.abortedAtEnd then ErrorCode.abort else outcome
      pure ⟨error.asU32, UInt32.ofNat written⟩

/-- The terminator a caller asks for. -/
def termchr (parms : DeviceReadParms) : Option UInt8 :=
  if parms.flags &&& opFlagTermchrset ≠ 0 then some parms.termChar.toUInt32.toUInt8 else none

def readCall (link : Link) (parms : DeviceReadParms) (h : parms.requestSize ≠ 0) : ReadCall where
  interface := link.interface
  pad := link.pad
  requestSize := parms.requestSize.toNat
  termchr := termchr parms
  requestSize_pos := ReadLink.requestSize_pos h

/-- `clamped - data.len()` of 64-bit words, in a build without overflow checks. -/
def remainingLen (call : ReadCall) (data : List UInt8) : Nat :=
  (call.clamped + 2 ^ 64 - data.length) % 2 ^ 64

def readSlice (call : ReadCall) (data : List UInt8) : Tenure C P E (Except Text Received) :=
  receive backend inputs (if call.interface then
      .readUnaddressed (min (remainingLen call data) maxRead)
    else .read call.pad (min (remainingLen call data) maxRead))

def readLoop (call : ReadCall) : List Look → List UInt8 → Tenure C P E ReadReply
  | [], _ => Interruptible.dropped
  | look :: looks, data => do
    if look.aborted then pure ⟨.abort, 0, data⟩
    else if look.remaining = 0 then pure ⟨.ioTimeout, 0, data⟩
    else
      setTimeout backend (sliceMs backend.readSliceMs look.remaining)
      match ← readSlice backend inputs call data with
      | .ok received =>
        let data := data ++ received.data
        let reason := call.reason data received.ended
        if reason ≠ 0 ∨ data.length = call.clamped then pure ⟨.noError, reason, data⟩
        else readLoop call looks data
      | .error e =>
        -- a timeout is progress towards the deadline
        if Looker.deviceRead.takesForTimeout e then readLoop call looks data
        else pure ⟨.ioError, 0, []⟩

/-- Off when the caller set no terminator, so that another front end's cannot cut the read short. -/
def setTerminator (saved : UInt8 × Bool) : Option UInt8 → Tenure C P E Unit
  | some ch => setEos backend ch true
  | none => setEos backend saved.1 false

def deviceRead (parms : DeviceReadParms) (met : Circumstances) : Tenure C P E DeviceReadResp :=
  match met.link with
  | none => pure (readFail .invalidLinkIdentifier)
  | some link =>
    if h : parms.requestSize = 0 then pure ⟨ErrorCode.noError.asU32, UInt32.ofNat rxReqcnt, []⟩
    else match met.access with
      | .error e => pure (readFail e)
      | .ok () => do
        let saved ← eos backend
        setTerminator backend saved (termchr parms)
        let reply ← readLoop backend met.inputs (readCall link parms h) met.looks []
        setEos backend saved.1 saved.2
        setTimeout backend config.defaultIoTimeoutMs.toNat
        pure reply.resp

/-- The answer of an operation that made one call. -/
def orIoError {β : Type} (abortedAtEnd : Bool) : Except Text β → ErrorCode
  | .ok _ => if abortedAtEnd then .abort else .noError
  | .error _ => if abortedAtEnd then .abort else .ioError

def deviceReadstb (parms : DeviceGenericParms) (met : Circumstances) :
    Tenure C P E DeviceReadStbResp :=
  match met.link with
  | none => pure ⟨ErrorCode.invalidLinkIdentifier.asU32, 0⟩
  | some link =>
    if link.interface then pure ⟨ErrorCode.operationNotSupported.asU32, 0⟩
    else match met.access, met.consumedStb with
      | .error e, _ => pure ⟨e.asU32, 0⟩
      | .ok (), some stb => pure ⟨ErrorCode.noError.asU32, stb⟩
      | .ok (), none => do
        setTimeout backend (effectiveTimeout config parms.ioTimeoutMs).toNat
        let polled ← request backend met.inputs (.serialPoll link.pad)
        setTimeout backend config.defaultIoTimeoutMs.toNat
        let stb := if met.abortedAtEnd then 0 else polled.toOption.getD 0
        pure ⟨(orIoError met.abortedAtEnd polled).asU32, stb⟩

inductive SimpleProc
  | deviceTrigger
  | deviceClear
  | deviceRemote
  | deviceLocal
  deriving DecidableEq, Repr

def gpibDcl : UInt8 := 0x14
def gpibGet : UInt8 := 0x08

/-- The backend's call; remote and local are for devices only. -/
def SimpleProc.request (link : Link) : SimpleProc → Option (BusRequest Unit)
  | .deviceTrigger => some (if link.interface then .sendBusCommand [gpibGet] else .trigger link.pad)
  | .deviceClear => some (if link.interface then .sendBusCommand [gpibDcl] else .deviceClear link.pad)
  | .deviceRemote => if link.interface then none else some (.goToRemote link.pad)
  | .deviceLocal => if link.interface then none else some (.goToLocal link.pad)

def deviceSimple (proc : SimpleProc) (met : Circumstances) : Tenure C P E UInt32 :=
  match met.link with
  | none => pure ErrorCode.invalidLinkIdentifier.asU32
  | some link => match met.access with
    | .error e => pure e.asU32
    | .ok () => match proc.request link with
      | none => pure ErrorCode.operationNotSupported.asU32
      | some r => do
        let outcome ← request backend met.inputs r
        pure (orIoError met.abortedAtEnd outcome).asU32

/-- The daemon under `device_docmd`: the held port, and whether a call on it still waits. -/
abbrev Docked (C P E : Type) := Port C P E × Bool

/-- What a call gives, if anything. -/
def ask (r : BusRequest α) (s : Docked C P E) : Option α × Docked C P E :=
  match (backend.request inputs r).exec s.1 with
  | (some (.ok a), port) => (some a, port, s.2)
  | (some (.error _), port) => (none, port, s.2)
  | (none, port) => (none, port, true)

def succeeds (r : BusRequest Unit) (s : Docked C P E) : Bool × Docked C P E :=
  ((ask backend inputs r s).1.isSome, (ask backend inputs r s).2)

def linesOf (bsr : UInt8) : Docmd.BusLines where
  ren := bsr &&& 0x01 != 0
  srq := bsr &&& bsrSrq != 0
  ndac := bsr &&& 0x20 != 0

def docmdInterface (met : Circumstances) : Docmd.Interface (Docked C P E) where
  linkFor _ _ := met.link.map (·.interface)
  acquireAccess _ _ _ s := (met.access, s)
  takeAbort _ s := (met.abortedAtEnd, s)
  sendBusCommand cmds := succeeds backend met.inputs (.sendBusCommand cmds)
  busLines s := ((ask backend met.inputs .busLines s).1.map linesOf, (ask backend met.inputs .busLines s).2)
  setAtn assert := succeeds backend met.inputs (.setAtn assert)
  ren enable := succeeds backend met.inputs (.ren enable)
  controllerPad s := backend.controllerPad s.1.ctrl
  setControllerPad pad := succeeds backend met.inputs (.setControllerPad pad)
  ifc := succeeds backend met.inputs .ifc

def deviceDocmd (parms : DeviceDocmdParms) (met : Circumstances) : Tenure C P E DeviceDocmdResp := do
  let held ← get
  let (resp, port, waits) := Docmd.deviceDocmd (docmdInterface backend met) parms (held.port, false)
  set { held with port }
  if waits then Interruptible.dropped else pure resp

/-- The procedures that take the bus, and the service-request forwarder's looks at it. -/
inductive Procedure
  | deviceWrite (parms : DeviceWriteParms)
  | deviceRead (parms : DeviceReadParms)
  | deviceReadstb (parms : DeviceGenericParms)
  | deviceSimple (proc : SimpleProc)
  | deviceDocmd (parms : DeviceDocmdParms)
  | srqLevel
  | srqPoll (pad : UInt8)
  deriving DecidableEq, Repr

/-- The error code of the answer. -/
def Procedure.run (met : Circumstances) : Procedure → Tenure C P E UInt32
  | .deviceWrite parms => do return (← BusSettings.deviceWrite backend config parms met).error
  | .deviceRead parms => do return (← BusSettings.deviceRead backend config parms met).error
  | .deviceReadstb parms => do return (← BusSettings.deviceReadstb backend config parms met).error
  | .deviceSimple proc => BusSettings.deviceSimple backend proc met
  | .deviceDocmd parms => do return (← BusSettings.deviceDocmd backend parms met).error
  | .srqLevel => do return (orIoError false (← request backend met.inputs .srqAsserted)).asU32
  | .srqPoll pad => do return (orIoError false (← request backend met.inputs (.serialPoll pad))).asU32

section Rules
variable {backend inputs config}

/-- A condition on the settings and the reads made so far. -/
abbrev Condition := Settings → List (UInt8 × Bool) → Prop

def Meets (backend : GpibBackend C P E) (I : Condition) (held : Held C P E) : Prop :=
  I (backend.settings held.port.ctrl) held.reads

/-- Begun where `I` holds, the program comes to its end only with `Q`, and waits for an answer only
with `R`. -/
abbrev Reaches (backend : GpibBackend C P E) (R I : Condition) (p : Tenure C P E α)
    (Q : α → Condition) : Prop :=
  Interruptible.Ends (Meets backend I) p (fun a => Meets backend (Q a)) (Meets backend R)

variable {I J R : Condition} {Q : α → Condition}

theorem pure_reaches {a : α} (h : ∀ s reads, I s reads → Q a s reads) :
    Reaches backend R I (pure a : Tenure C P E α) Q := Interruptible.Ends.pure fun _ => h _ _

theorem dropped_reaches (hR : ∀ s reads, I s reads → R s reads) :
    Reaches backend R I (Interruptible.dropped : Tenure C P E α) Q := fun _ => hR _ _

/-- The backend's calls keep the settings. -/
theorem request_reaches {r : BusRequest α} (hR : ∀ s reads, I s reads → R s reads) :
    Reaches backend R I (request backend inputs r) fun _ => I := by
  intro held hheld
  have hkept := backend.request_keeps inputs r (backend.settings held.port.ctrl) held.port rfl
  have hexec : (request backend inputs r).exec held =
      (((backend.request inputs r).exec held.port).1.map .ok,
        { held with port := ((backend.request inputs r).exec held.port).2 }) := rfl
  have hsame : backend.settings ((backend.request inputs r).exec held.port).2.ctrl =
      backend.settings held.port.ctrl := hkept.state
  have hmeets : I (backend.settings ((backend.request inputs r).exec held.port).2.ctrl) held.reads := by
    rw [hsame]
    exact hheld
  rw [hexec]
  generalize (backend.request inputs r).exec held.port = result at hmeets ⊢
  match result, hmeets with
  | (none, _), hmeets => exact hR _ _ hmeets
  | (some _, _), hmeets => exact hmeets

theorem setTimeout_reaches {timeoutMs : Nat}
    (h : ∀ s reads, I s reads → J { s with timeoutMs } reads) :
    Reaches backend R I (setTimeout backend timeoutMs) fun _ => J := by
  refine Interruptible.Ends.modify fun held hheld => ?_
  have hset := h _ _ hheld
  rwa [← backend.settings_setTimeout] at hset

theorem setEos_reaches {eosChar : UInt8} {eosEnabled : Bool}
    (h : ∀ s reads, I s reads → J { s with eosChar, eosEnabled } reads) :
    Reaches backend R I (setEos backend eosChar eosEnabled) fun _ => J := by
  refine Interruptible.Ends.modify fun held hheld => ?_
  have hset := h _ _ hheld
  rwa [← backend.settings_setEos] at hset

theorem eos_reaches :
    Reaches backend R I (eos backend) fun e s reads => e = (s.eosChar, s.eosEnabled) ∧ I s reads :=
  fun _ hheld => ⟨rfl, hheld⟩

theorem receive_reaches {r : BusRequest Received} (hR : ∀ s reads, I s reads → R s reads)
    (h : ∀ s reads, I s reads → I s ((s.eosChar, s.eosEnabled) :: reads)) :
    Reaches backend R I (receive backend inputs r) fun _ => I := by
  unfold receive
  refine eos_reaches.bind fun e => ?_
  refine (Interruptible.Ends.modify (Q := fun _ => Meets backend I) ?_).bind
    fun _ => request_reaches hR
  rintro held ⟨rfl, hheld⟩
  exact h _ _ hheld

/-- A write's loop touches the timeout only. -/
theorem writeLoop_reaches (hR : ∀ s reads, I s reads → R s reads)
    (hI : ∀ s reads timeoutMs, I s reads → I { s with timeoutMs } reads)
    {link : Link} {data : List UInt8} {sendEoi : Bool} {looks : List Look} {written : Nat} :
    Reaches backend R I (writeLoop backend inputs link data sendEoi looks written) fun _ => I := by
  induction looks generalizing written with
  | nil => exact dropped_reaches hR
  | cons look looks ih =>
    unfold writeLoop
    split
    · exact pure_reaches fun _ _ => id
    split
    · exact pure_reaches fun _ _ => id
    refine (setTimeout_reaches fun s reads => hI s reads _).bind fun _ => ?_
    refine (request_reaches hR).bind fun sent => ?_
    cases sent with
    | ok _ =>
      dsimp only
      split
      · exact pure_reaches fun _ _ => id
      · exact ih
    | error _ => exact pure_reaches fun _ _ => id

/-- A read's loop touches the timeout, and reads with the terminator it finds. -/
theorem readLoop_reaches (hR : ∀ s reads, I s reads → R s reads)
    (hI : ∀ s reads timeoutMs, I s reads → I { s with timeoutMs } reads)
    (hread : ∀ s reads, I s reads → I s ((s.eosChar, s.eosEnabled) :: reads)) {call : ReadCall}
    {looks : List Look} {data : List UInt8} :
    Reaches backend R I (readLoop backend inputs call looks data) fun _ => I := by
  induction looks generalizing data with
  | nil => exact dropped_reaches hR
  | cons look looks ih =>
    unfold readLoop
    split
    · exact pure_reaches fun _ _ => id
    split
    · exact pure_reaches fun _ _ => id
    refine (setTimeout_reaches fun s reads => hI s reads _).bind fun _ => ?_
    refine (receive_reaches hR hread).bind fun attempt => ?_
    cases attempt with
    | ok received =>
      dsimp only
      split
      · exact pure_reaches fun _ _ => id
      · exact ih
    | error _ =>
      dsimp only
      split
      · exact ih
      · exact pure_reaches fun _ _ => id

/-- The settings are these, and these reads were made. -/
def At (s₀ : Settings) (reads₀ : List (UInt8 × Bool)) : Condition := fun s reads =>
  s = s₀ ∧ reads = reads₀

/-- All is so but for the timeout. -/
def ButTimeout (s₀ : Settings) (reads₀ : List (UInt8 × Bool)) : Condition := fun s reads =>
  s.eosChar = s₀.eosChar ∧ s.eosEnabled = s₀.eosEnabled ∧ reads = reads₀

variable {s₀ : Settings} {reads₀ : List (UInt8 × Bool)}

theorem At.butTimeout {s : Settings} {reads : List (UInt8 × Bool)} (h : At s₀ reads₀ s reads) :
    ButTimeout s₀ reads₀ s reads := by
  obtain ⟨rfl, hreads⟩ := h
  exact ⟨rfl, rfl, hreads⟩

/-- Back at the default, the timeout is what it was. -/
theorem setTimeout_default (hdefault : s₀.timeoutMs = config.defaultIoTimeoutMs.toNat) :
    Reaches backend R (ButTimeout s₀ reads₀) (setTimeout backend config.defaultIoTimeoutMs.toNat)
      fun _ => At s₀ reads₀ := by
  refine setTimeout_reaches ?_
  rintro s reads ⟨hchar, henabled, hreads⟩
  exact ⟨Settings.ext hchar henabled hdefault.symm, hreads⟩

theorem deviceWrite_reaches (hdefault : s₀.timeoutMs = config.defaultIoTimeoutMs.toNat)
    {parms : DeviceWriteParms} {met : Circumstances} :
    Reaches backend (fun _ _ => True) (At s₀ reads₀) (deviceWrite backend config parms met) fun _ => At s₀ reads₀ := by
  unfold deviceWrite
  split
  · exact pure_reaches fun _ _ => id
  rename_i link _
  split
  · exact pure_reaches fun _ _ => id
  have hloop : Reaches backend (fun _ _ => True) (At s₀ reads₀) (writeLoop backend met.inputs link parms.data
      (parms.flags &&& opFlagEnd ≠ 0) met.looks 0) fun _ => ButTimeout s₀ reads₀ :=
    (writeLoop_reaches (I := ButTimeout s₀ reads₀) (fun _ _ _ => trivial) fun _ _ _ => id).imp (fun _ => At.butTimeout)
      (fun _ _ => id) fun _ => id
  refine hloop.bind fun result => ?_
  exact (setTimeout_default hdefault).bind fun _ => pure_reaches fun _ _ => id

/-- The terminator is on if and only if the caller set one, and is that one. -/
def AsAsked (termchr : Option UInt8) (eos : UInt8 × Bool) : Prop :=
  eos.2 = termchr.isSome ∧ ∀ ch ∈ termchr, eos.1 = ch

/-- While the read is under way. -/
def Reading (termchr : Option UInt8) : Condition := fun s reads =>
  AsAsked termchr (s.eosChar, s.eosEnabled) ∧ ∀ eos ∈ reads, AsAsked termchr eos

theorem setTerminator_reaches {saved : UInt8 × Bool} {termchr : Option UInt8} :
    Reaches backend R (At s₀ []) (setTerminator backend saved termchr) fun _ => Reading termchr := by
  cases termchr with
  | none =>
    refine setEos_reaches ?_
    rintro s reads ⟨-, rfl⟩
    exact ⟨⟨rfl, nofun⟩, nofun⟩
  | some ch =>
    refine setEos_reaches ?_
    rintro s reads ⟨-, rfl⟩
    exact ⟨⟨rfl, fun _ => Option.some.inj⟩, nofun⟩

theorem deviceRead_reaches (hdefault : s₀.timeoutMs = config.defaultIoTimeoutMs.toNat)
    {parms : DeviceReadParms} {met : Circumstances} :
    Reaches backend (fun _ reads => ∀ eos ∈ reads, AsAsked (termchr parms) eos) (At s₀ [])
      (deviceRead backend config parms met) fun _ s reads =>
        s = s₀ ∧ ∀ eos ∈ reads, AsAsked (termchr parms) eos := by
  have hstart : ∀ s reads, At s₀ [] s reads → s = s₀ ∧ ∀ eos ∈ reads, AsAsked (termchr parms) eos := by
    rintro s reads ⟨hs, rfl⟩
    exact ⟨hs, nofun⟩
  unfold deviceRead
  split
  · exact pure_reaches hstart
  split
  · exact pure_reaches hstart
  split
  · exact pure_reaches hstart
  refine eos_reaches.bind fun saved => ?_
  intro held hheld
  -- what was saved is what was there
  obtain ⟨hsaved, hs, hreads⟩ := hheld
  rw [hs] at hsaved
  subst hsaved
  refine Interruptible.Ends.bind (P := Meets backend (At s₀ [])) setTerminator_reaches
    (fun _ => ?_) held ⟨hs, hreads⟩
  refine (readLoop_reaches (I := Reading (termchr parms)) (fun _ _ => And.right) (fun _ _ _ => id) ?_).bind fun reply => ?_
  · rintro s reads ⟨hasked, hreads⟩
    exact ⟨hasked, List.forall_mem_cons.mpr ⟨hasked, hreads⟩⟩
  refine (setEos_reaches (J := fun s reads => (s.eosChar = s₀.eosChar ∧ s.eosEnabled = s₀.eosEnabled) ∧
    ∀ eos ∈ reads, AsAsked (termchr parms) eos) fun s reads h => ⟨⟨rfl, rfl⟩, h.2⟩).bind fun _ => ?_
  refine (setTimeout_reaches ?_).bind fun _ => pure_reaches fun _ _ => id
  rintro s reads ⟨⟨hchar, henabled⟩, hreads⟩
  exact ⟨Settings.ext hchar henabled hdefault.symm, hreads⟩

theorem deviceReadstb_reaches (hdefault : s₀.timeoutMs = config.defaultIoTimeoutMs.toNat)
    {parms : DeviceGenericParms} {met : Circumstances} :
    Reaches backend (fun _ _ => True) (At s₀ reads₀) (deviceReadstb backend config parms met) fun _ => At s₀ reads₀ := by
  unfold deviceReadstb
  split
  · exact pure_reaches fun _ _ => id
  split
  · exact pure_reaches fun _ _ => id
  split
  · exact pure_reaches fun _ _ => id
  · exact pure_reaches fun _ _ => id
  refine (setTimeout_reaches (J := ButTimeout s₀ reads₀) fun _ _ h => h.butTimeout).bind fun _ => ?_
  refine (request_reaches fun _ _ _ => trivial).bind fun polled => ?_
  exact (setTimeout_default hdefault).bind fun _ => pure_reaches fun _ _ => id

theorem deviceSimple_reaches {proc : SimpleProc} {met : Circumstances} :
    Reaches backend (fun _ _ => True) I (deviceSimple backend proc met) fun _ => I := by
  unfold deviceSimple
  split
  · exact pure_reaches fun _ _ => id
  split
  · exact pure_reaches fun _ _ => id
  split
  · exact pure_reaches fun _ _ => id
  · exact (request_reaches fun _ _ _ => trivial).bind fun _ => pure_reaches fun _ _ => id

theorem ask_settings {r : BusRequest α} (s : Docked C P E) :
    backend.settings (ask backend inputs r s).2.1.ctrl = backend.settings s.1.ctrl := by
  have hkept : backend.settings ((backend.request inputs r).exec s.1).2.ctrl =
      backend.settings s.1.ctrl :=
    (backend.request_keeps inputs r (backend.settings s.1.ctrl) s.1 rfl).state
  unfold ask
  split <;> (rename_i heq; rw [heq] at hkept; exact hkept)

theorem docmdInterface_keeps {met : Circumstances} : (docmdInterface backend met).Keeps
    fun s : Docked C P E => backend.settings s.1.ctrl = s₀ where
  acquireAccess _ _ _ _ := id
  takeAbort _ _ := id
  sendBusCommand _ s := (ask_settings s).trans
  busLines s := (ask_settings s).trans
  setAtn _ s := (ask_settings s).trans
  ren _ s := (ask_settings s).trans
  setControllerPad _ s := (ask_settings s).trans
  ifc s := (ask_settings s).trans

theorem deviceDocmd_reaches {parms : DeviceDocmdParms} {met : Circumstances} :
    Reaches backend (fun _ _ => True) (At s₀ reads₀) (deviceDocmd backend parms met) fun _ => At s₀ reads₀ := by
  intro held hheld
  have hkept : backend.settings (Docmd.deviceDocmd (docmdInterface backend met) parms
      (held.port, false)).2.1.ctrl = s₀ := Docmd.deviceDocmd_keeps docmdInterface_keeps hheld.1
  have hexec : (deviceDocmd backend parms met).exec held = Interruptible.exec (do
      set { held with port := (Docmd.deviceDocmd (docmdInterface backend met) parms
        (held.port, false)).2.1 }
      if (Docmd.deviceDocmd (docmdInterface backend met) parms (held.port, false)).2.2 then
        Interruptible.dropped
      else pure (Docmd.deviceDocmd (docmdInterface backend met) parms (held.port, false)).1) held := rfl
  rw [hexec]
  generalize Docmd.deviceDocmd (docmdInterface backend met) parms (held.port, false) = result
    at hkept ⊢
  obtain ⟨resp, port, waits⟩ := result
  cases waits with
  | true => exact trivial
  | false => exact ⟨hkept, hheld.2⟩

/-- The procedures other than a read leave the settings as they were. -/
theorem run_reaches (met : Circumstances) {procedure : Procedure}
    (hdefault : s₀.timeoutMs = config.defaultIoTimeoutMs.toNat)
    (hother : ∀ parms, procedure ≠ .deviceRead parms) :
    Reaches backend (fun _ _ => True) (At s₀ reads₀) (procedure.run backend config met)
      fun _ => At s₀ reads₀ := by
  cases procedure with
  | deviceRead parms => exact absurd rfl (hother parms)
  | deviceWrite => exact (deviceWrite_reaches hdefault).bind fun _ => pure_reaches fun _ _ => id
  | deviceReadstb => exact (deviceReadstb_reaches hdefault).bind fun _ => pure_reaches fun _ _ => id
  | deviceSimple => exact deviceSimple_reaches
  | deviceDocmd => exact deviceDocmd_reaches.bind fun _ => pure_reaches fun _ _ => id
  | srqLevel => exact (request_reaches fun _ _ _ => trivial).bind fun _ => pure_reaches fun _ _ => id
  | srqPoll => exact (request_reaches fun _ _ _ => trivial).bind fun _ => pure_reaches fun _ _ => id

theorem run_deviceRead_reaches (met : Circumstances) (parms : DeviceReadParms)
    (hdefault : s₀.timeoutMs = config.defaultIoTimeoutMs.toNat) :
    Reaches backend (fun _ reads => ∀ eos ∈ reads, AsAsked (termchr parms) eos) (At s₀ [])
      ((Procedure.deviceRead parms).run backend config met) fun _ s reads =>
        s = s₀ ∧ ∀ eos ∈ reads, AsAsked (termchr parms) eos :=
  (deviceRead_reaches hdefault).bind fun _ => pure_reaches fun _ _ => id

end Rules

/-- The backend's settings after an operation are those before it, the timeout being the daemon's
default; and each read of a `device_read` is made with the terminator its caller set, or with none. -/
theorem settings_restored (usb : UsbErrors E) (kind : BackendKind) (config : Config)
    (met : Circumstances) (procedure : Procedure) {port : Port kind.Ctrl kind.Packet E}
    (hdefault : ((kind.backend usb).settings port.ctrl).timeoutMs = config.defaultIoTimeoutMs.toNat)
    {result : Option (Except Empty UInt32)} {held : Held kind.Ctrl kind.Packet E}
    (hrun : (procedure.run (kind.backend usb) config met).exec { port } = (result, held)) :
    (result.isSome = true →
        (kind.backend usb).settings held.port.ctrl = (kind.backend usb).settings port.ctrl ∧
        ((kind.backend usb).settings held.port.ctrl).timeoutMs = config.defaultIoTimeoutMs.toNat) ∧
      ∀ parms, procedure = .deviceRead parms → ∀ eos ∈ held.reads, AsAsked (termchr parms) eos := by
  have hstart : Meets (kind.backend usb) (At ((kind.backend usb).settings port.ctrl) []) { port } :=
    ⟨rfl, rfl⟩
  by_cases hread : ∃ parms, procedure = .deviceRead parms
  · obtain ⟨parms, rfl⟩ := hread
    have hleaves := run_deviceRead_reaches met parms hdefault _ hstart
    rw [hrun] at hleaves
    match result, hleaves with
    | some (.ok _), ⟨hs, hreads⟩ =>
      refine ⟨fun _ => ⟨hs, by rw [hs, hdefault]⟩, ?_⟩
      rintro _ ⟨⟩
      exact hreads
    | none, hreads =>
      refine ⟨nofun, ?_⟩
      rintro _ ⟨⟩
      exact hreads
  · have hother : ∀ parms, procedure ≠ .deviceRead parms := fun parms h => hread ⟨parms, h⟩
    have hleaves := run_reaches met hdefault hother _ hstart
    rw [hrun] at hleaves
    refine ⟨fun hsome => ?_, fun parms h => absurd h (hother parms)⟩
    match result, hleaves with
    | some (.ok _), ⟨hs, _⟩ => exact ⟨hs, by rw [hs, hdefault]⟩

def lineReadParms : DeviceReadParms where
  lid := 1
  requestSize := 100
  ioTimeoutMs := 2000
  lockTimeoutMs := 0
  flags := opFlagTermchrset
  termChar := 0x0a

/-- A read with a line feed for terminator, on an 82357 that another front end left at a carriage
return. -/
def lineRead : Tenure Agilent.GpibController Agilent.Packet Unit UInt32 :=
  (Procedure.deviceRead lineReadParms).run (BackendKind.backend oneError .agilent82357) ⟨3000⟩
    { link := some ⟨false, 5⟩, looks := [{ remaining := 2000000000 }] }

def lineReadPort : Agilent.AgilentPort Unit where
  ctrl := { eosChar := 0x0d, eosEnabled := true, timeoutMs := 3000 }
  answers := Agilent.acceptsBytes ++ Agilent.acceptsRegisters ++
    [.completed [], .completed [0x31, 0x0a, Agilent.atrfEos]]

theorem settings_restored_lineRead : ∃ held, lineRead.exec { port := lineReadPort } = (some (.ok 0), held) ∧
    held.reads = [(0x0a, true)] ∧ held.port.ctrl.eosChar = 0x0d ∧ held.port.ctrl.eosEnabled = true ∧
    held.port.ctrl.timeoutMs = 3000 := by
  have hresult : (lineRead.exec { port := lineReadPort }).1 = some (.ok 0) ∧
      (lineRead.exec { port := lineReadPort }).2.reads = [(0x0a, true)] := by decide +kernel
  obtain ⟨hdone, hreads⟩ := hresult
  have hrun : lineRead.exec { port := lineReadPort } =
      (some (.ok 0), (lineRead.exec { port := lineReadPort }).2) := Prod.ext hdone rfl
  obtain ⟨hsame, -⟩ := (settings_restored oneError .agilent82357 ⟨3000⟩
    { link := some ⟨false, 5⟩, looks := [{ remaining := 2000000000 }] } (.deviceRead lineReadParms) rfl
    hrun).1 rfl
  exact ⟨_, hrun, hreads, congrArg Settings.eosChar hsame, congrArg Settings.eosEnabled hsame,
    congrArg Settings.timeoutMs hsame⟩

end Ugpibd.Vxi11.BusSettings
