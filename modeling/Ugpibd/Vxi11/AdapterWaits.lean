import Ugpibd.Backend.TransferWaits
import Ugpibd.Vxi11.AdapterTimeouts

/-! How long a VXI-11 transfer lets the adapter be waited for. Each round of its loop sets the backend's
timeout within what is left of the caller's, so the adapter waits are bounded by the caller's wherever
they go by the timeout set last. -/
namespace Ugpibd.Vxi11.BusSettings
open Library Backend Messages DataCalls

variable {C P E α : Type} {backend : GpibBackend C P E} {inputs : PollInputs} {config : Config}

/-- A timeout within the caller's. -/
def InBudget (ioTimeoutMs timeoutMs : Nat) : Prop := 1 ≤ timeoutMs ∧ timeoutMs ≤ ioTimeoutMs

theorem adapterFloorMs_inBudget {ioTimeoutMs remaining : Nat} (hpos : remaining ≠ 0)
    (hle : remaining ≤ ioTimeoutMs * 1000000) :
    InBudget ioTimeoutMs (adapterFloorMs (asMillis remaining)) := by
  have hms : asMillis remaining ≤ ioTimeoutMs := Nat.div_le_of_le_mul (by omega)
  rcases Nat.eq_zero_or_pos (asMillis remaining) with hzero | hsome
  · rw [hzero]
    have hfloor : adapterFloorMs 0 = 1 := rfl
    exact ⟨hfloor.ge, by omega⟩
  · obtain ⟨hmem, hfloor⟩ := adapterFloorMs_mem hsome
    have hstep : ∀ step ∈ steps, 1 ≤ step := by decide
    exact ⟨hstep _ hmem, hfloor.trans hms⟩

theorem sliceMs_inBudget {ioTimeoutMs remaining : Nat} (slice : Option Nat) (hpos : remaining ≠ 0)
    (hle : remaining ≤ ioTimeoutMs * 1000000) : InBudget ioTimeoutMs (sliceMs slice remaining) := by
  have hms : asMillis remaining % 2 ^ 32 ≤ ioTimeoutMs :=
    (Nat.mod_le _ _).trans (Nat.div_le_of_le_mul (by omega))
  have hio : 1 ≤ ioTimeoutMs := by omega
  cases slice with
  | none => exact ⟨Nat.le_max_right _ _, Nat.max_le.mpr ⟨hms, hio⟩⟩
  | some slice =>
    exact ⟨Nat.le_max_left _ _, Nat.max_le.mpr ⟨hio, (Nat.min_le_left _ _).trans hms⟩⟩

section
variable {I J R : Backend.Condition C P}

/-- Begun where `I` holds of the port, the tenure comes to its end with `J`, and waits for ever only with
`R`. -/
abbrev Maintains (R I : Backend.Condition C P) (p : Tenure C P E α) (J : Backend.Condition C P) : Prop :=
  Interruptible.Ends (fun held => held.port.Meets I) p (fun _ held => held.port.Meets J)
    (fun held => held.port.Meets R)

theorem request_maintains {r : BusRequest α} (h : Operation.Keeps I (backend.request inputs r)) :
    Maintains I I (request backend inputs r) I := fun held hheld =>
  Interruptible.Leaves.of_state (R := fun held : Held C P E => held.port.Meets I)
    ((h held.port hheld).state)

theorem setTimeout_maintains {timeoutMs : Nat} (h : ∀ c l, I c l → J (backend.setTimeout timeoutMs c) l) :
    Maintains R I (setTimeout backend timeoutMs) J := Interruptible.Ends.modify fun _ => h _ _

theorem setEos_maintains {eosChar : UInt8} {enabled : Bool}
    (h : ∀ c l, I c l → J (backend.setEos eosChar enabled c) l) :
    Maintains R I (setEos backend eosChar enabled) J := Interruptible.Ends.modify fun _ => h _ _

theorem eos_maintains : Maintains R I (eos backend) I := fun _ => id

theorem pure_maintains {a : α} : Maintains R I (pure a : Tenure C P E α) I := fun _ => id

theorem receive_maintains {r : BusRequest Received} (h : Operation.Keeps I (backend.request inputs r)) :
    Maintains I I (receive backend inputs r) I := by
  refine eos_maintains.bind fun terminator => ?_
  have hnote : Maintains I I (modify fun held : Held C P E =>
      { held with reads := terminator :: held.reads }) I := Interruptible.Ends.modify fun _ => id
  exact hnote.bind fun _ => request_maintains h

/-- The loop of a write, with what holds between its rounds and what holds once a round has set its
timeout. -/
theorem writeLoop_maintains (hJ : ∀ c l, J c l → I c l)
    (hrequest : ∀ r : BusRequest Unit, Operation.Keeps J (backend.request inputs r)) {link : Link}
    {data : List UInt8} {sendEoi : Bool} {looks : List Look} {written : Nat}
    (hset : ∀ look ∈ looks, look.remaining ≠ 0 → ∀ c l, I c l →
      J (backend.setTimeout (adapterFloorMs (asMillis look.remaining)) c) l) :
    Maintains I I (writeLoop backend inputs link data sendEoi looks written) I := by
  induction looks generalizing written with
  | nil => exact fun _ => id
  | cons look looks ih =>
    obtain ⟨hfirst, hrest⟩ := List.forall_mem_cons.mp hset
    unfold writeLoop
    split
    · exact pure_maintains
    split
    · exact pure_maintains
    refine (setTimeout_maintains (hfirst ‹_›)).bind fun _ => ?_
    refine ((request_maintains (hrequest _)).imp (fun _ => id) (fun _ _ => hJ _ _)
      fun _ => hJ _ _).bind fun sent => ?_
    cases sent with
    | ok _ =>
      dsimp only
      split
      · exact pure_maintains
      · exact ih hrest
    | error _ => exact pure_maintains

theorem readLoop_maintains (hJ : ∀ c l, J c l → I c l)
    (hrequest : ∀ r : BusRequest Received, Operation.Keeps J (backend.request inputs r))
    {call : ReadCall} {looks : List Look} {data : List UInt8}
    (hset : ∀ look ∈ looks, look.remaining ≠ 0 → ∀ c l, I c l →
      J (backend.setTimeout (sliceMs backend.readSliceMs look.remaining) c) l) :
    Maintains I I (readLoop backend inputs call looks data) I := by
  induction looks generalizing data with
  | nil => exact fun _ => id
  | cons look looks ih =>
    obtain ⟨hfirst, hrest⟩ := List.forall_mem_cons.mp hset
    unfold readLoop
    split
    · exact pure_maintains
    split
    · exact pure_maintains
    refine (setTimeout_maintains (hfirst ‹_›)).bind fun _ => ?_
    refine ((receive_maintains (hrequest _)).imp (fun _ => id) (fun _ _ => hJ _ _)
      fun _ => hJ _ _).bind fun attempt => ?_
    cases attempt with
    | ok _ =>
      dsimp only
      split
      · exact pure_maintains
      · exact ih hrest
    | error _ =>
      dsimp only
      split
      · exact ih hrest
      · exact pure_maintains

/-- A write, given what holds of the port between the rounds. -/
theorem deviceWrite_maintains (hJ : ∀ c l, J c l → I c l)
    (hrequest : ∀ inputs (r : BusRequest Unit), Operation.Keeps J (backend.request inputs r))
    (htimeout : ∀ timeoutMs c l, I c l → I (backend.setTimeout timeoutMs c) l)
    {parms : DeviceWriteParms} {met : Circumstances}
    (hset : ∀ look ∈ met.looks, look.remaining ≠ 0 → ∀ c l, I c l →
      J (backend.setTimeout (adapterFloorMs (asMillis look.remaining)) c) l) :
    Maintains I I (deviceWrite backend config parms met) I := by
  unfold deviceWrite
  split
  · exact pure_maintains
  split
  · exact pure_maintains
  refine (writeLoop_maintains hJ (hrequest _) hset).bind fun _ => ?_
  exact (setTimeout_maintains (htimeout _)).bind fun _ => pure_maintains

theorem deviceRead_maintains (hJ : ∀ c l, J c l → I c l)
    (hrequest : ∀ inputs (r : BusRequest Received), Operation.Keeps J (backend.request inputs r))
    (htimeout : ∀ timeoutMs c l, I c l → I (backend.setTimeout timeoutMs c) l)
    (heos : ∀ eosChar enabled c l, I c l → I (backend.setEos eosChar enabled c) l)
    {parms : DeviceReadParms} {met : Circumstances}
    (hset : ∀ look ∈ met.looks, look.remaining ≠ 0 → ∀ c l, I c l →
      J (backend.setTimeout (sliceMs backend.readSliceMs look.remaining) c) l) :
    Maintains I I (deviceRead backend config parms met) I := by
  have hterminator : ∀ saved termchr, Maintains I I (setTerminator backend saved termchr) I := by
    intro saved termchr
    cases termchr with
    | none => exact setEos_maintains (heos _ _)
    | some ch => exact setEos_maintains (heos _ _)
  unfold deviceRead
  split
  · exact pure_maintains
  split
  · exact pure_maintains
  split
  · exact pure_maintains
  refine eos_maintains.bind fun saved => ?_
  refine (hterminator saved _).bind fun _ => ?_
  refine (readLoop_maintains hJ (hrequest _) hset).bind fun _ => ?_
  refine (setEos_maintains (heos _ _)).bind fun _ => ?_
  exact (setTimeout_maintains (htimeout _)).bind fun _ => pure_maintains

end

/-- The two procedures that transfer data. -/
inductive DataProc
  | deviceWrite (parms : DeviceWriteParms)
  | deviceRead (parms : DeviceReadParms)

def DataProc.procedure : DataProc → Procedure
  | .deviceWrite parms => .deviceWrite parms
  | .deviceRead parms => .deviceRead parms

def DataProc.ioTimeoutMs : DataProc → UInt32
  | .deviceWrite parms => parms.ioTimeoutMs
  | .deviceRead parms => parms.ioTimeoutMs

/-- The caller's timeout, or the daemon's for a caller without one, in milliseconds. -/
def DataProc.budgetMs (config : Config) (proc : DataProc) : Nat :=
  (effectiveTimeout config proc.ioTimeoutMs).toNat

section
variable {W : WaitLimits C P} {K : Option Nat → W.Transport → Prop}
  {Limit : Nat → P → WithTop Nat → Prop} {ioTimeoutMs : Nat}

/-- The timeout set last is within the caller's. -/
def SetInBudget (ioTimeoutMs : Nat) (last : Option Nat) : Prop :=
  ∃ timeoutMs, last = some timeoutMs ∧ InBudget ioTimeoutMs timeoutMs

/-- A transfer sends what it sends with a timeout within its caller's, and within that one's limits. -/
theorem dataProc_follows (hW : W.Follows backend K Limit) (proc : DataProc) {met : Circumstances}
    (hlooks : ∀ look ∈ met.looks, look.remaining ≤ proc.budgetMs config * 1000000) :
    Maintains (Following backend W K Limit (SetInBudget (proc.budgetMs config)))
      (Following backend W K Limit (SetInBudget (proc.budgetMs config)))
      (proc.procedure.run (timed backend W) config met)
      (Following backend W K Limit (SetInBudget (proc.budgetMs config))) := by
  have hset : ∀ timeoutMs c l, InBudget (proc.budgetMs config) timeoutMs →
      Following backend W K Limit (SetInBudget (proc.budgetMs config)) c l →
      SetInBudget (proc.budgetMs config) ((timed backend W).setTimeout timeoutMs c).lastSet ∧
        Following backend W K Limit (SetInBudget (proc.budgetMs config))
          ((timed backend W).setTimeout timeoutMs c) l :=
    fun timeoutMs c l hbudget h => ⟨⟨timeoutMs, rfl, hbudget⟩, h.setTimeout hW timeoutMs⟩
  cases proc with
  | deviceWrite parms =>
    refine (deviceWrite_maintains (fun _ _ => And.right) (fun _ r => request_follows hW r)
      (fun timeoutMs _ _ h => h.setTimeout hW timeoutMs)
      fun look hlook hpos c l => hset _ c l ?_).bind fun _ => pure_maintains
    exact adapterFloorMs_inBudget hpos (hlooks look hlook)
  | deviceRead parms =>
    refine (deviceRead_maintains (fun _ _ => And.right) (fun _ r => request_follows hW r)
      (fun timeoutMs _ _ h => h.setTimeout hW timeoutMs)
      (fun eosChar enabled _ _ h => h.setEos eosChar enabled)
      fun look hlook hpos c l => hset _ c l ?_).bind fun _ => pure_maintains
    exact sliceMs_inBudget _ hpos (hlooks look hlook)

end

/-- A byte for whoever listens, with 100 ms for it. -/
def shortWrite : DataProc := .deviceWrite ⟨1, 100, 0, 8, [0x2a]⟩

def shortWriteMet : Circumstances := { link := some ⟨true, 0⟩, looks := [{ remaining := 100000000 }] }

/-- An 82357 opened with a minute, on a bus where nobody takes the byte. -/
def minutePort : Port (Timed Agilent.GpibController Nat) (Waited Agilent.Packet) Unit :=
  { ctrl := { ctrl := { timeoutMs := 60000 }, transport := Agilent.waitLimits.opened 60000 }
    answers := [.completed [], .late] }

end Ugpibd.Vxi11.BusSettings
