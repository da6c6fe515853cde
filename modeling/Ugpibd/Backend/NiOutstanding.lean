import Ugpibd.Backend.NiTransact

/-! What can be outstanding on the bulk pipe: the transfers of an answer, how the read loop meets
them, and what each phase of a call expects to come. -/
namespace Ugpibd.Backend.Ni

/-- The transfers of an answer: none is empty, and the read loop does not stop before the last. -/
structure Framed (respLen : Nat) (transfers : List (List UInt8)) : Prop where
  nonempty : ∀ transfer ∈ transfers, transfer ≠ []
  stops_last : ∀ taken rest, transfers = taken ++ rest → rest ≠ [] →
    bulkInDone respLen taken.flatten = false

theorem bytesOf_map_mk (number : Nat) (transfers : List (List UInt8)) :
    bytesOf (transfers.map (Chunk.mk number)) = transfers.flatten := by
  rw [bytesOf, List.flatMap_map, List.flatMap_def, List.map_id']

theorem bulkInDone_nil {respLen : Nat} (h : 0 < respLen) : bulkInDone respLen [] = false := by
  simp [bulkInDone, termination]
  omega

/-- An answer in one transfer is framed. -/
theorem framed_singleton {respLen : Nat} {transfer : List UInt8} (hpos : 0 < respLen)
    (hne : transfer ≠ []) : Framed respLen [transfer] where
  nonempty := fun _ hmem => List.mem_singleton.mp hmem ▸ hne
  stops_last := by
    intro taken rest hsplit hrest
    rcases List.append_eq_singleton_iff.mp hsplit.symm with ⟨rfl, -⟩ | ⟨-, rfl⟩
    · exact bulkInDone_nil hpos
    · exact absurd rfl hrest

/-- All that is outstanding is one answer, whole and due by the instant or already arriving. -/
def OneAnswerBy (owed : List Owed) (pipe : List Chunk) (instant : Nat) : Prop :=
  owed = [] ∨ ∃ answer, owed = [answer] ∧ pipe = [] ∧ answer.due ≤ instant

/-- What is outstanding, together with what has been read, is the answer to the exchange, and the
read loop stops no earlier than at its end. -/
structure Awaits (owed : List Owed) (pipe : List Chunk) (exchange : Exchange)
    (data : List Chunk) : Prop where
  owed_own : owed = [] ∨ ∃ answer, owed = [answer] ∧ answer.exchange = exchange ∧ data = []
  own : ∀ chunk ∈ data ++ pipe, chunk.request = exchange.number
  stops_last : ∀ taken rest, pipe = taken ++ rest → rest ≠ [] →
    bulkInDone exchange.respLen (bytesOf (data ++ taken)) = false

/-- What is outstanding in each phase, by the note of an abandoned exchange. -/
def InStep (abandoned : Option Nat) (owed : List Owed) (pipe : List Chunk) : Phase → Prop
  | .idle => match abandoned with
    | none => owed = [] ∧ pipe = []
    | some deadline => OneAnswerBy owed pipe deadline
  | .draining _ waitUntil _ => OneAnswerBy owed pipe waitUntil
  | .sending exchange => Awaits owed pipe exchange [] ∧
      ∃ deadline, abandoned = some deadline ∧ OneAnswerBy owed pipe deadline
  | .reading exchange data _ => Awaits owed pipe exchange data ∧
      ∃ deadline, abandoned = some deadline ∧ OneAnswerBy owed pipe deadline

section
variable {owed rest : List Owed} {pipe : List Chunk} {answer : Owed} {instant : Nat}
  {exchange : Exchange} {data : List Chunk}

/-- Once a transfer is on its way, the answer it belongs to is no longer owed. -/
theorem OneAnswerBy.owed_nil {chunk : Chunk} (h : OneAnswerBy owed (chunk :: pipe) instant) :
    owed = [] := by
  rcases h with howed | ⟨-, -, hnil, -⟩
  · exact howed
  · cases hnil

theorem OneAnswerBy.of_cons (h : OneAnswerBy (answer :: rest) pipe instant) :
    rest = [] ∧ pipe = [] := by
  rcases h with hnone | ⟨other, hone, hpipe, -⟩
  · cases hnone
  · exact ⟨(List.cons.inj hone).2, hpipe⟩

theorem Awaits.of_cons (h : Awaits (answer :: rest) pipe exchange data) :
    answer.exchange = exchange ∧ data = [] := by
  rcases h.owed_own with hnone | ⟨other, hone, hown⟩
  · cases hnone
  · obtain rfl := (List.cons.inj hone).1
    exact hown

/-- With nothing outstanding there is nothing to mistake for an answer. -/
theorem awaits_nil (exchange : Exchange) : Awaits [] [] exchange [] where
  owed_own := .inl rfl
  own := nofun
  stops_last := by
    intro taken rest hsplit hrest
    exact absurd (List.append_eq_nil_iff.mp hsplit.symm).2 hrest

/-- The answer that arrives is all the exchange waits for. -/
theorem awaits_answer {transfers : List (List UInt8)} (hframed : Framed exchange.respLen transfers) :
    Awaits [] (transfers.map (Chunk.mk exchange.number)) exchange [] where
  owed_own := .inl rfl
  own := by
    intro chunk hchunk
    obtain ⟨transfer, -, rfl⟩ := List.mem_map.mp hchunk
    rfl
  stops_last := by
    intro taken rest hsplit hrest
    obtain ⟨first, last, hcut, rfl, rfl⟩ := List.map_eq_append_iff.mp hsplit
    rw [List.nil_append, bytesOf_map_mk]
    exact hframed.stops_last first last hcut fun hlast => hrest (by rw [hlast]; rfl)

/-- The read loop takes the next transfer: it may go on, and stops only where nothing is left. -/
theorem Awaits.transfer {chunk : Chunk} (h : Awaits [] (chunk :: pipe) exchange data) :
    Awaits [] pipe exchange (data ++ [chunk]) ∧
      (bulkInDone exchange.respLen (bytesOf (data ++ [chunk])) = true → pipe = []) := by
  refine ⟨⟨.inl rfl, fun c hc => h.own c (by simpa using hc), ?_⟩, fun hdone => ?_⟩
  · intro taken rest hsplit hrest
    rw [List.append_assoc]
    exact h.stops_last (chunk :: taken) rest (congrArg (chunk :: ·) hsplit) hrest
  · by_contra hne
    rw [h.stops_last [chunk] pipe rfl hne] at hdone
    cases hdone

end

end Ugpibd.Backend.Ni
