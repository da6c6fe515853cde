import Ugpibd.Backend.NiData
import Ugpibd.Library.Runs

/-! How the NI transport puts a reply together from the USB transfers it arrives in. Packet boundaries
do not say where a reply ends; its termination block does, and the instrument's data may look like
one. -/
namespace Ugpibd.Backend.Ni
open Library NiUsbHs

variable {E : Type}

/-- The loop of `bulk_in_locked`, from what it has. A transfer that is not empty adds a byte, so there
are no more of them than bytes. -/
def gatherReply (maxLen : Nat) : Nat → List UInt8 → Usb E (TransactFailure E) (List UInt8)
  | 0, data => pure data
  | fuel + 1, data =>
    if bulkInDone maxLen data then pure data
    else do
      match ← transfer with
      | .completed got =>
        -- an empty packet ends the transfer
        if got = [] then pure data else gatherReply maxLen fuel (data ++ got)
      | .failed error => throw (.bulkInFailed error)
      | .late => throw .bulkInTimedOut

def bulkInLocked (maxLen : Nat) : Usb E (TransactFailure E) (List UInt8) := gatherReply maxLen maxLen []

variable {maxLen fuel : Nat} {data got : List UInt8} {answers : List (Answer E)}
  {transfers : List (List UInt8)}

theorem gatherReply_done (h : bulkInDone maxLen data = true) :
    gatherReply maxLen fuel data answers = some (.ok data, answers) := by
  cases fuel with
  | zero => rfl
  | succ fuel =>
    unfold gatherReply
    rw [if_pos h]
    rfl

theorem gatherReply_succ (h : bulkInDone maxLen data = false) :
    gatherReply maxLen (fuel + 1) data answers = match answers with
      | [] => none
      | .completed got :: rest =>
        if got = [] then some (.ok data, rest) else gatherReply maxLen fuel (data ++ got) rest
      | .failed error :: rest => some (.error (.bulkInFailed error), rest)
      | .late :: rest => some (.error .bulkInTimedOut, rest) := by
  have hmore : ¬bulkInDone maxLen data = true := by simp [h]
  rw [gatherReply, if_neg hmore]
  match answers with
  | [] => rfl
  | .completed [] :: rest => rfl
  | .completed (_ :: _) :: rest => rfl
  | .failed _ :: rest => rfl
  | .late :: rest => rfl

theorem bulkInDone_of_termination (h : termination <:+ data) : bulkInDone maxLen data = true := by
  simp [bulkInDone, h]

theorem bulkInDone_of_le (h : maxLen ≤ data.length) : bulkInDone maxLen data = true := by
  simp [bulkInDone, h]

/-- The loop stops at the first transfer after which it is done. -/
structure StopsAfter (maxLen : Nat) (data : List UInt8) (taken : List (List UInt8)) : Prop where
  done : bulkInDone maxLen (data ++ taken.flatten) = true
  first : ∀ fewer more, taken = fewer ++ more → more ≠ [] →
    bulkInDone maxLen (data ++ fewer.flatten) = false

theorem stopsAfter_nil (h : bulkInDone maxLen data = true) : StopsAfter maxLen data [] where
  done := by simpa using h
  first _ _ heq hmore := absurd (List.append_eq_nil_iff.mp heq.symm).2 hmore

theorem StopsAfter.cons {transfer : List UInt8} {taken : List (List UInt8)}
    (h : StopsAfter maxLen (data ++ transfer) taken) (hdone : bulkInDone maxLen data = false) :
    StopsAfter maxLen data (transfer :: taken) where
  done := by simpa using h.done
  first fewer more heq hmore := by
    cases fewer with
    | nil => simpa using hdone
    | cons first fewer =>
      obtain ⟨rfl, htaken⟩ := List.cons.inj heq
      simpa using h.first fewer more htaken hmore

theorem gatherReply_stops (later : List (Answer E)) (hne : ∀ transfer ∈ transfers, transfer ≠ [])
    (hfuel : maxLen ≤ data.length + fuel)
    (hend : bulkInDone maxLen (data ++ transfers.flatten) = true) :
    ∃ taken rest, transfers = taken ++ rest ∧ StopsAfter maxLen data taken ∧
      gatherReply maxLen fuel data (transfers.map .completed ++ later) =
        some (.ok (data ++ taken.flatten), rest.map .completed ++ later) := by
  induction transfers generalizing data fuel with
  | nil =>
    have hdone : bulkInDone maxLen data = true := by simpa using hend
    exact ⟨[], [], rfl, stopsAfter_nil hdone, by rw [gatherReply_done hdone]; simp⟩
  | cons transfer transfers ih =>
    cases hdone : bulkInDone maxLen data with
    | true => exact ⟨[], _, rfl, stopsAfter_nil hdone, by rw [gatherReply_done hdone]; simp⟩
    | false =>
      obtain ⟨hfirst, hrest⟩ := List.forall_mem_cons.mp hne
      have hpos : 0 < transfer.length := List.length_pos_iff.mpr hfirst
      have hshort : data.length < maxLen := by
        by_contra hlong
        rw [bulkInDone_of_le (not_lt.mp hlong)] at hdone
        cases hdone
      obtain ⟨fuel, rfl⟩ : ∃ n, fuel = n + 1 := Nat.exists_eq_add_one.mpr (by omega)
      have hfuel' : maxLen ≤ (data ++ transfer).length + fuel := by
        rw [List.length_append]
        omega
      obtain ⟨taken, rest, rfl, hstops, hrun⟩ := ih hrest hfuel' (by simpa using hend)
      refine ⟨transfer :: taken, rest, rfl, hstops.cons hdone, ?_⟩
      rw [List.map_cons, List.cons_append, gatherReply_succ hdone]
      simp only [if_neg hfirst, hrun]
      simp

/-- Neither end of a bulk-in looks at the phase it ends. -/
theorem replyRead_phase (s : BulkIo) (phase : Phase) (exchange : Exchange) (data : List Chunk)
    (left : Nat) : { s with phase }.replyRead exchange data left = s.replyRead exchange data left := by
  unfold BulkIo.replyRead
  split
  · rfl
  · split <;> rfl

theorem readOn_phase (s : BulkIo) (phase : Phase) (exchange : Exchange) (data : List Chunk)
    (left : Nat) : { s with phase }.readOn exchange data left = s.readOn exchange data left := by
  unfold BulkIo.readOn
  rw [replyRead_phase]

section
variable {s : BulkIo} {exchange : Exchange} {data : List Chunk} {left : Nat} {chunk : Chunk}
  {pipe : List Chunk}

theorem readOn_done (h : bulkInDone exchange.respLen (bytesOf data) = true) :
    s.readOn exchange data left = s.replyRead exchange data left := by
  rw [BulkIo.readOn, if_pos h]

/-- A transfer is taken from the pipe: an empty one ends the bulk-in, another goes to the head of its
loop. -/
theorem step_transfer (hdone : bulkInDone exchange.respLen (bytesOf data) = false)
    (hpipe : s.pipe = chunk :: pipe) :
    (s.readOn exchange data left).step .transfer = some (if chunk.bytes = [] then
        { s with pipe }.replyRead exchange data left
      else { s with pipe }.readOn exchange (data ++ [chunk]) left) := by
  have hreading : s.readOn exchange data left = { s with phase := .reading exchange data left } := by
    rw [BulkIo.readOn, if_neg (by simp [hdone])]
  rw [hreading]
  unfold BulkIo.step
  simp only [hpipe]
  split
  · exact congrArg some (replyRead_phase { s with pipe } _ exchange data left)
  · exact congrArg some (readOn_phase { s with pipe } _ exchange (data ++ [chunk]) left)

/-- The reading phase of `transact` is this loop. -/
theorem reach_replyRead {rest : List (Answer E)}
    (hfuel : exchange.respLen ≤ (bytesOf data).length + fuel)
    (h : gatherReply exchange.respLen fuel (bytesOf data)
      (s.pipe.map fun chunk => .completed chunk.bytes) = some (.ok got, rest)) :
    ∃ data' later, bytesOf data' = got ∧ rest = later.map (fun chunk : Chunk => .completed chunk.bytes) ∧
      Reach BulkIo.step anyStep (s.readOn exchange data left)
        ({ s with pipe := later }.replyRead exchange data' left) := by
  induction fuel generalizing s data with
  | zero =>
    have hdone := bulkInDone_of_le hfuel
    rw [gatherReply_done hdone] at h
    cases h
    exact ⟨data, s.pipe, rfl, rfl, readOn_done hdone ▸ .refl⟩
  | succ fuel ih =>
    cases hdone : bulkInDone exchange.respLen (bytesOf data) with
    | true =>
      rw [gatherReply_done hdone] at h
      cases h
      exact ⟨data, s.pipe, rfl, rfl, readOn_done hdone ▸ .refl⟩
    | false =>
      rw [gatherReply_succ hdone] at h
      cases hpipe : s.pipe with
      | nil =>
        rw [hpipe] at h
        cases h
      | cons chunk pipe =>
        have hstep : (s.readOn exchange data left).step .transfer = _ := step_transfer hdone hpipe
        rw [hpipe] at h
        simp only [List.map_cons] at h
        split at h
        · rename_i hempty
          rw [if_pos hempty] at hstep
          cases h
          exact ⟨data, pipe, rfl, rfl, Reach.refl.tail trivial hstep⟩
        · rename_i hmore
          rw [if_neg hmore] at hstep
          have hbytes : bytesOf (data ++ [chunk]) = bytesOf data ++ chunk.bytes := by simp [bytesOf]
          have hpos := List.length_pos_iff.mpr hmore
          rw [← hbytes] at h
          obtain ⟨data', later, hgot, hrest, hreach⟩ := ih (s := { s with pipe }) (by
            rw [hbytes, List.length_append]
            omega) h
          exact ⟨data', later, hgot, hrest, (Reach.refl.tail trivial hstep).trans hreach⟩

end

/-- The transfers of a reply, each but the last of whole packets. -/
structure SplitAtPackets (maxPacketSize : Nat) (reply : List UInt8) (transfers : List (List UInt8)) :
    Prop where
  whole : transfers.flatten = reply
  nonempty : ∀ transfer ∈ transfers, transfer ≠ []
  boundary : ∀ transfer ∈ transfers.dropLast, maxPacketSize ∣ transfer.length

/-- No transfer before the last ends with bytes that look like a termination block. -/
def NoEarlyTermination (transfers : List (List UInt8)) : Prop :=
  ∀ taken rest, transfers = taken ++ rest → rest ≠ [] → ¬termination <:+ taken.flatten

theorem flatten_ne_nil {rest : List (List UInt8)} (hne : ∀ transfer ∈ rest, transfer ≠ [])
    (h : rest ≠ []) : rest.flatten ≠ [] := by
  obtain ⟨first, more, rfl⟩ := List.exists_cons_of_ne_nil h
  rw [List.flatten_cons]
  exact List.append_ne_nil_of_left_ne_nil (hne first List.mem_cons_self) _

/-- A reply that ends with a termination block and fits is read whole exactly when it is not split behind
bytes that look like one. -/
theorem reply_whole_iff {maxPacketSize : Nat} {reply : List UInt8} (later : List (Answer E))
    (hsplit : SplitAtPackets maxPacketSize reply transfers) (hterm : termination <:+ reply)
    (hlen : reply.length ≤ maxLen) :
    bulkInLocked maxLen (transfers.map .completed ++ later) = some (.ok reply, later) ↔
      NoEarlyTermination transfers := by
  obtain ⟨rfl, hne, -⟩ := hsplit
  have hstart : maxLen ≤ ([] : List UInt8).length + maxLen := (Nat.zero_add maxLen).ge
  obtain ⟨taken, rest, rfl, hstops, hrun⟩ :=
    gatherReply_stops later hne hstart (bulkInDone_of_termination hterm)
  rw [bulkInLocked, hrun]
  constructor
  · intro hwhole fewer more heq hmore hearly
    have hrest : rest = [] := by
      have hlater := congrArg List.length (Prod.mk.inj (Option.some.inj hwhole)).2
      simpa using hlater
    subst hrest
    have hfirst := hstops.first fewer more (by simpa using heq) hmore
    rw [List.nil_append, bulkInDone_of_termination hearly] at hfirst
    cases hfirst
  · intro hno
    have hrest : rest = [] := by
      by_contra hrest
      have hpos : 0 < rest.flatten.length := List.length_pos_iff.mpr
        (flatten_ne_nil (fun transfer hmem => hne transfer (List.mem_append_right _ hmem)) hrest)
      have hdone := hstops.done
      rw [List.flatten_append, List.length_append] at hlen
      simp only [bulkInDone, List.nil_append, Bool.or_eq_true, decide_eq_true_eq,
        List.isSuffixOf_iff_suffix] at hdone
      rcases hdone with hfull | hearly
      · omega
      · exact hno taken rest rfl hrest hearly
    subst hrest
    simp

/-- Sixty bytes of an instrument in four data blocks, which fill a full-speed packet; the last of them are
those of a termination block. -/
def dataPacket : List UInt8 :=
  (niusbIbrdDataId :: List.replicate 15 0x30) ++ (niusbIbrdDataId :: List.replicate 15 0x30) ++
    (niusbIbrdDataId :: List.replicate 15 0x30) ++
    (niusbIbrdDataId :: List.replicate 11 0x30) ++ [0x04, 0, 0, 0]

/-- The rest of the reply: END, no error, and the length of the last block. -/
def statusPacket : List UInt8 := [niusbIbrdStatusId, 0x20, 0, 0, 0, 0, 0, 0, 0, 15, 0, 0] ++ termination

/-- The same data read with the packets of a high-speed port. -/
theorem reply_whole_iff_one :
    bulkInLocked 128 [.completed (dataPacket ++ statusPacket)] =
      (some (.ok (dataPacket ++ statusPacket), []) :
        Option (Except (TransactFailure Unit) (List UInt8) × List (Answer Unit))) := by
  have hsplit : SplitAtPackets 512 (dataPacket ++ statusPacket) [dataPacket ++ statusPacket] :=
    ⟨by decide, by decide, by decide⟩
  refine (reply_whole_iff [] hsplit (by decide) (by decide)).mpr fun taken rest heq hrest => ?_
  rcases List.append_eq_singleton_iff.mp heq.symm with ⟨rfl, -⟩ | ⟨-, rfl⟩
  · decide
  · exact absurd rfl hrest

/-- Read in full-speed packets, the reply is cut where the data looks like its end: the status is still to
come, and the read fails. -/
theorem data_read_as_termination :
    SplitAtPackets 64 (dataPacket ++ statusPacket) [dataPacket, statusPacket] ∧
    parseDataReadResponse (dataPacket ++ statusPacket) 60 =
      .ok (List.replicate 56 0x30 ++ [0x04, 0, 0, 0], true) ∧
    bulkInLocked 128 [.completed dataPacket, .completed statusPacket] =
      (some (.ok dataPacket, [.completed statusPacket]) :
        Option (Except (TransactFailure Unit) (List UInt8) × List (Answer Unit))) ∧
    parseDataReadResponse dataPacket 60 = .error (.statusBlockTooShort 0) := by
  exact ⟨⟨by decide, by decide, by decide⟩, by decide, by decide, by decide⟩

end Ugpibd.Backend.Ni
