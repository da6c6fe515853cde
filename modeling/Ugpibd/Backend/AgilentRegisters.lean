import Ugpibd.Backend.NiOutstanding
import Ugpibd.Library.Runs

/-! Register access on the 82357: a request on the bulk-out pipe and its answer on the bulk-in one.
An access that times out leaves its answer in the pipe, and answers to register reads look alike. -/
namespace Ugpibd.Backend.Agilent
open Library
open Ni (Chunk bytesOf bytesOf_map_mk)

structure RegisterPairlet where
  address : UInt8
  value : UInt8
  deriving DecidableEq, Repr

inductive ProtocolError
  | deviceError (cmd code : UInt8)
  | badResponse (expected got : UInt8)
  | shortResponse (need got : Nat)
  deriving DecidableEq, Repr

def wrRegs : UInt8 := 0x04
def rdRegs : UInt8 := 0x05
def ugpSuccess : UInt8 := 0x00

def encodeWrRegs (regs : List RegisterPairlet) : List UInt8 :=
  [wrRegs, UInt8.ofNat regs.length] ++ regs.flatMap fun r => [r.address, r.value]

def encodeRdRegs (addrs : List UInt8) : List UInt8 :=
  [rdRegs, UInt8.ofNat addrs.length] ++ addrs

/-- The checks the two response decoders share: length, complemented command and status. -/
def checkResponse (cmd : UInt8) (need : Nat) (resp : List UInt8) : Except ProtocolError Unit :=
  if resp.length < need then .error (.shortResponse need resp.length)
  else if resp.getD 0 0 ≠ ~~~cmd then .error (.badResponse (~~~cmd) (resp.getD 0 0))
  else if resp.getD 1 0 ≠ ugpSuccess then .error (.deviceError cmd (resp.getD 1 0))
  else .ok ()

def decodeWrRegsResponse (resp : List UInt8) : Except ProtocolError Unit :=
  checkResponse wrRegs 2 resp

/-- The registers with the values a response carries for them. -/
def fill (resp : List UInt8) (regs : List RegisterPairlet) : List RegisterPairlet :=
  regs.mapIdx fun i r => { r with value := resp.getD (2 + i) 0 }

def decodeRdRegsResponse (resp : List UInt8) (regs : List RegisterPairlet) :
    Except ProtocolError (List RegisterPairlet) :=
  match checkResponse rdRegs (2 + regs.length) resp with
  | .error e => .error e
  | .ok () => .ok (fill resp regs)

/-- One call of `write_registers` or `read_registers`. -/
inductive Access
  | write (regs : List RegisterPairlet)
  | read (regs : List RegisterPairlet)
  deriving DecidableEq

def Access.packet : Access → List UInt8
  | .write regs => encodeWrRegs regs
  | .read regs => encodeRdRegs (regs.map (·.address))

structure Exchange where
  number : Nat
  access : Access
  deriving DecidableEq

def responseLen : Nat := 0x20

/-- Does the read loop of `read_bulk` end with this transfer? -/
def readBulkDone (mps : Nat) (data : List Chunk) (chunk : Chunk) : Bool :=
  chunk.bytes.length % mps != 0 || chunk.bytes.isEmpty || responseLen ≤ (bytesOf data).length

inductive Phase
  | idle
  | sending (exchange : Exchange)
  | reading (exchange : Exchange) (data : List Chunk)
  deriving DecidableEq

/-- A register read that returned success: the transfers it read and what it gave its caller. -/
structure Filled where
  number : Nat
  requested : List RegisterPairlet
  data : List Chunk
  regs : List RegisterPairlet
  deriving DecidableEq

/-- The controller's pipes: the packets the adapter has got and not answered, and the transfers on
their way in. The rest is not part of the program: the answers given, and the accesses that returned
success. -/
structure Registers where
  begun : Nat := 0
  phase : Phase := .idle
  owed : List (Exchange × List UInt8) := []
  pipe : List Chunk := []
  answered : List (Nat × List UInt8) := []
  acknowledged : List Nat := []
  filled : List Filled := []

/-- `answer` is the adapter's next answer, as the transfers it arrives in. A `timeout` is the wait
for an answer running out, a `failure` a transfer that ends in error; `taken` says whether the
adapter has got a request whose transfer failed. -/
inductive Action
  | access (access : Access)
  | sent
  | answer (transfers : List (List UInt8))
  | transfer
  | timeout
  | failure (taken : Bool)

namespace Registers

/-- The response is whole: a write that accepts it is done, a read fills its registers. -/
def finish (s : Registers) (exchange : Exchange) (data : List Chunk) : Registers :=
  match exchange.access with
  | .write _ => match decodeWrRegsResponse (bytesOf data) with
    | .ok () => { s with phase := .idle, acknowledged := exchange.number :: s.acknowledged }
    | .error _ => { s with phase := .idle }
  | .read regs => match decodeRdRegsResponse (bytesOf data) regs with
    | .ok values => { s with
        phase := .idle
        filled := ⟨exchange.number, regs, data, values⟩ :: s.filled }
    | .error _ => { s with phase := .idle }

def step (mps : Nat) (s : Registers) : Action → Option Registers
  | .access access => match s.phase with
    | .idle => some { s with
        begun := s.begun + 1
        phase := .sending ⟨s.begun, access⟩
        owed := s.owed ++ [(⟨s.begun, access⟩, access.packet)] }
    | _ => none
  | .sent => match s.phase with
    | .sending exchange => some { s with phase := .reading exchange [] }
    | _ => none
  | .answer transfers => match s.owed with
    | (exchange, _) :: rest => some { s with
        owed := rest
        pipe := s.pipe ++ transfers.map (Chunk.mk exchange.number)
        answered := (exchange.number, transfers.flatten) :: s.answered }
    | [] => none
  | .transfer => match s.phase, s.pipe with
    | .reading exchange data, chunk :: rest =>
      let s := { s with pipe := rest }
      if readBulkDone mps (data ++ [chunk]) chunk then some (s.finish exchange (data ++ [chunk]))
      else some { s with phase := .reading exchange (data ++ [chunk]) }
    | _, _ => none
  | .timeout => match s.phase with
    | .reading _ _ => some { s with phase := .idle }
    | _ => none
  | .failure taken => match s.phase with
    | .sending exchange => some { s with
        phase := .idle
        owed := if taken then s.owed else s.owed.filter (·.1.number != exchange.number) }
    | .reading _ _ => some { s with phase := .idle }
    | .idle => none

/-- A register read begins only when every earlier answer has come and has been read. -/
def readsAlone (s : Registers) : Action → Prop
  | .access (.read _) => s.owed = [] ∧ s.pipe = []
  | _ => True

/-- The registers have the values that the answer to this very request carries. -/
def FromOwnAnswer (answered : List (Nat × List UInt8)) (filled : Filled) : Prop :=
  (∀ chunk ∈ filled.data, chunk.request = filled.number) ∧
    ∃ answer, (filled.number, answer) ∈ answered ∧ 2 + filled.requested.length ≤ answer.length ∧
      filled.regs = fill answer filled.requested

/-- What a register read waits for is its own answer, and all there is: it is owed, or it is what has
been read and what is on its way. -/
def Awaits (s : Registers) (exchange : Exchange) (data : List Chunk) : Prop :=
  (∃ packet, s.owed = [(exchange, packet)] ∧ data ++ s.pipe = []) ∨
  (s.owed = [] ∧ (∀ chunk ∈ data ++ s.pipe, chunk.request = exchange.number) ∧
    (exchange.number, bytesOf (data ++ s.pipe)) ∈ s.answered)

/-- Every register read in progress waits for its own answer, and all that returned had it. -/
structure Tracked (s : Registers) : Prop where
  sending : ∀ exchange regs, s.phase = .sending exchange → exchange.access = .read regs →
    s.Awaits exchange []
  reading : ∀ exchange data regs, s.phase = .reading exchange data →
    exchange.access = .read regs → s.Awaits exchange data
  filled : ∀ filled ∈ s.filled, FromOwnAnswer s.answered filled

variable {mps : Nat} {s s' : Registers} {a : Action} {exchange : Exchange} {data : List Chunk}

theorem tracked_start : Tracked {} where
  sending := nofun
  reading := nofun
  filled := nofun

/-- Only the registers that were asked for are read from a response. -/
theorem fill_append {resp : List UInt8} {regs : List RegisterPairlet} (more : List UInt8)
    (hlen : 2 + regs.length ≤ resp.length) : fill (resp ++ more) regs = fill resp regs := by
  unfold fill
  apply List.ext_getElem (by simp)
  intro i hi hi'
  have hlt : 2 + i < resp.length := by
    simp only [List.length_mapIdx] at hi
    omega
  simp [List.getD, List.getElem?_append_left hlt]

theorem decodeRdRegsResponse_ok {resp : List UInt8} {regs values : List RegisterPairlet}
    (h : decodeRdRegsResponse resp regs = .ok values) :
    2 + regs.length ≤ resp.length ∧ values = fill resp regs := by
  unfold decodeRdRegsResponse checkResponse at h
  split at h
  · cases h
  · rename_i hcheck
    refine ⟨?_, (Except.ok.inj h).symm⟩
    by_contra hshort
    rw [if_pos (by omega)] at hcheck
    cases hcheck

theorem FromOwnAnswer.mono {answered : List (Nat × List UInt8)} {entry : Nat × List UInt8}
    {filled : Filled} (h : FromOwnAnswer answered filled) :
    FromOwnAnswer (entry :: answered) filled := by
  obtain ⟨hown, answer, hmem, hfill⟩ := h
  exact ⟨hown, answer, List.mem_cons_of_mem _ hmem, hfill⟩

/-- No access is in progress: only what has returned is left to say. -/
theorem Tracked.idle (h : s.Tracked) (owed : List (Exchange × List UInt8)) (pipe : List Chunk)
    (acknowledged : List Nat) : Tracked { s with phase := .idle, owed, pipe, acknowledged } where
  sending := nofun
  reading := nofun
  filled := h.filled

/-- The adapter's next answer is the one a register read waits for. -/
private theorem Awaits.answer {packet : List UInt8} {other : Exchange}
    {rest : List (Exchange × List UInt8)} (h : s.Awaits exchange data)
    (howed : s.owed = (other, packet) :: rest) (transfers : List (List UInt8)) :
    Awaits { s with
      owed := rest
      pipe := s.pipe ++ transfers.map (Chunk.mk other.number)
      answered := (other.number, transfers.flatten) :: s.answered } exchange data := by
  rcases h with ⟨_, hone, hnone⟩ | ⟨hnone, -⟩
  · rw [howed] at hone
    obtain ⟨heq, rfl⟩ := List.cons.inj hone
    obtain ⟨rfl, -⟩ := Prod.mk.inj heq
    obtain ⟨rfl, hpipe⟩ := List.append_eq_nil_iff.mp hnone
    refine .inr ⟨rfl, ?_, ?_⟩
    · rw [hpipe]
      intro chunk hchunk
      obtain ⟨transfer, -, rfl⟩ := List.mem_map.mp hchunk
      rfl
    · rw [hpipe, List.nil_append, List.nil_append, bytesOf_map_mk]
      exact List.mem_cons_self
  · rw [howed] at hnone
    cases hnone

/-- A transfer moves from the pipe to what has been read. -/
private theorem Awaits.transfer {chunk : Chunk} {rest : List Chunk} (h : s.Awaits exchange data)
    (hpipe : s.pipe = chunk :: rest) :
    Awaits { s with pipe := rest } exchange (data ++ [chunk]) := by
  have hsplit : data ++ [chunk] ++ rest = data ++ s.pipe := by
    rw [hpipe, List.append_assoc, List.singleton_append]
  rcases h with ⟨packet, howed, hnone⟩ | ⟨howed, hown, hanswered⟩
  · rw [hpipe] at hnone
    simp at hnone
  · refine .inr ⟨howed, ?_, ?_⟩
    · rwa [hsplit]
    · rwa [hsplit]

/-- A read that accepts its response has the values of its own answer. -/
private theorem Awaits.fromOwnAnswer {regs values : List RegisterPairlet}
    (h : s.Awaits exchange data)
    (hdecode : decodeRdRegsResponse (bytesOf data) regs = .ok values) :
    FromOwnAnswer s.answered ⟨exchange.number, regs, data, values⟩ := by
  obtain ⟨hlen, rfl⟩ := decodeRdRegsResponse_ok hdecode
  rcases h with ⟨packet, -, hnone⟩ | ⟨-, hown, hanswered⟩
  · rw [(List.append_eq_nil_iff.mp hnone).1] at hlen
    simp [bytesOf] at hlen
  · have hbytes : bytesOf (data ++ s.pipe) = bytesOf data ++ bytesOf s.pipe :=
      List.flatMap_append
    rw [hbytes] at hanswered
    refine ⟨fun chunk hmem => hown chunk (List.mem_append_left _ hmem), _, hanswered, ?_, ?_⟩
    · rw [List.length_append]
      exact Nat.le_add_right_of_le hlen
    · exact (fill_append _ hlen).symm

private theorem transfer_tracked (h : s.Tracked) (hstep : s.step mps .transfer = some s') :
    s'.Tracked := by
  simp only [step] at hstep
  split at hstep
  · rename_i exchange data chunk rest hphase hpipe
    split at hstep
    · obtain rfl := Option.some.inj hstep
      unfold finish
      split
      · split <;> exact h.idle _ _ _
      · rename_i regs haccess
        have hawaits := (h.reading exchange data regs hphase haccess).transfer hpipe
        split
        · rename_i values hdecode
          refine ⟨nofun, nofun, ?_⟩
          intro filled hmem
          rcases List.mem_cons.mp hmem with rfl | hmem
          · exact hawaits.fromOwnAnswer hdecode
          · exact h.filled filled hmem
        · exact h.idle _ _ _
    · obtain rfl := Option.some.inj hstep
      refine ⟨nofun, ?_, h.filled⟩
      rintro _ _ regs hnext haccess
      obtain ⟨rfl, rfl⟩ := Phase.reading.inj hnext
      exact (h.reading exchange data regs hphase haccess).transfer hpipe
  · cases hstep

/-- One step keeps every register read to its own answer, as long as none begins before the earlier
answers are in. -/
theorem step_tracked (h : s.Tracked) (hg : s.readsAlone a) (hstep : s.step mps a = some s') :
    s'.Tracked := by
  cases a with
  | access access =>
    simp only [step] at hstep
    split at hstep
    · obtain rfl := Option.some.inj hstep
      refine ⟨?_, nofun, h.filled⟩
      intro exchange regs hphase haccess
      obtain rfl := Phase.sending.inj hphase
      obtain rfl : access = .read regs := haccess
      obtain ⟨howed, hpipe⟩ := hg
      exact .inl ⟨_, by rw [howed]; rfl, by rw [hpipe]; rfl⟩
    · cases hstep
  | sent =>
    simp only [step] at hstep
    split at hstep
    · rename_i exchange hphase
      obtain rfl := Option.some.inj hstep
      refine ⟨nofun, ?_, h.filled⟩
      rintro _ _ regs hnext haccess
      obtain ⟨rfl, rfl⟩ := Phase.reading.inj hnext
      exact h.sending exchange regs hphase haccess
    · cases hstep
  | answer transfers =>
    simp only [step] at hstep
    split at hstep
    · rename_i other packet rest howed
      obtain rfl := Option.some.inj hstep
      refine ⟨?_, ?_, fun filled hmem => (h.filled filled hmem).mono⟩
      · intro exchange regs hphase haccess
        exact (h.sending exchange regs hphase haccess).answer howed transfers
      · intro exchange data regs hphase haccess
        exact (h.reading exchange data regs hphase haccess).answer howed transfers
    · cases hstep
  | transfer => exact transfer_tracked h hstep
  | timeout =>
    simp only [step] at hstep
    split at hstep
    · obtain rfl := Option.some.inj hstep
      exact h.idle _ _ _
    · cases hstep
  | failure taken =>
    simp only [step] at hstep
    split at hstep
    · obtain rfl := Option.some.inj hstep
      exact h.idle _ _ _
    · obtain rfl := Option.some.inj hstep
      exact h.idle _ _ _
    · cases hstep

/-- In every run in which a register read begins only when every earlier answer has come and has been
read, every register read that returns success has filled its registers from the answer to its own
request. -/
theorem registers_filled_from_own_answer (h : Reach (step mps) readsAlone {} s) (filled : Filled)
    (hmem : filled ∈ s.filled) : FromOwnAnswer s.answered filled := by
  have htracked : s.Tracked := Reach.invariant h tracked_start
    fun _ _ _ htracked hg hstep => step_tracked htracked hg hstep
  exact htracked.filled filled hmem

private def readStatus : Action := .access (.read [⟨0x02, 0⟩])

private def statusAnswer (value : UInt8) : Action := .answer [[~~~rdRegs, ugpSuccess, value]]

/-- A register read after a write that got its answer. -/
theorem read_after_write_filled : ∃ s, Reach (step 64) readsAlone {} s ∧
    ∃ filled ∈ s.filled, filled.regs = [⟨0x02, 9⟩] ∧ FromOwnAnswer s.answered filled := by
  have hbegun : Reach (step 64) readsAlone {} _ :=
    (Reach.refl.tail (a := .access (.write [⟨0x01, 1⟩])) trivial rfl).tail (a := .sent) trivial rfl
  have hquiet := (hbegun.tail (a := .answer [[~~~wrRegs, ugpSuccess]]) (by trivial) rfl).tail
    (a := .transfer) (by trivial) rfl
  have hread := (hquiet.tail (a := readStatus) ⟨rfl, rfl⟩ rfl).tail (a := .sent) (by trivial) rfl
  have hrun := (hread.tail (a := statusAnswer 9) (by trivial) rfl).tail (a := .transfer)
    (by trivial) rfl
  exact ⟨_, hrun, _, List.mem_cons_self, rfl,
    registers_filled_from_own_answer hrun _ List.mem_cons_self⟩

/-- A register read times out, its answer comes late, and the next read fills its register from it. -/
theorem late_answer_fills_next_read : ∃ s, Reach (step 64) anyStep {} s ∧
    ∃ filled ∈ s.filled, filled.number = 1 ∧ filled.regs = [⟨0x02, 7⟩] ∧
      ¬ FromOwnAnswer s.answered filled := by
  obtain ⟨s, hreach, htest⟩ := exists_reach_of_exec (step 64) {}
    (fun s => s.filled.any
      (· == ⟨1, [⟨0x02, 0⟩], [⟨0, [~~~rdRegs, ugpSuccess, 7]⟩], [⟨0x02, 7⟩]⟩))
    [readStatus, .sent, .timeout, readStatus, statusAnswer 7, .sent, .transfer] (by decide +kernel)
  obtain ⟨filled, hmem, heq⟩ := List.any_eq_true.mp htest
  obtain rfl := beq_iff_eq.mp heq
  refine ⟨s, hreach, _, hmem, rfl, rfl, ?_⟩
  rintro ⟨hown, -⟩
  exact absurd (hown _ List.mem_cons_self) (by decide)

end Registers
end Ugpibd.Backend.Agilent
