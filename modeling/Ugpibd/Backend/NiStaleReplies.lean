import Ugpibd.Library.Runs
import Ugpibd.Backend.NiOutstanding

/-! Whose answer a reply is. The note of an abandoned exchange covers the one answer still to come,
as long as the drain that acts on it is allowed to finish. -/
namespace Ugpibd.Backend.Ni
open Library

namespace BulkIo
variable {s s' : BulkIo} {a : Action} {exchange : Exchange} {data : List Chunk}

/-- The steps in which a drain is not broken off, by cancellation, by an error or by its cap,
while there is anything to drain, and the adapter frames its answers. -/
def drainsThrough (s : BulkIo) : Action → Prop
  | .answer transfers => ∀ answer rest, s.owed = answer :: rest →
      Framed answer.exchange.respLen transfers
  | .cancel | .failure _ => ∀ exchange waitUntil left,
      s.phase = .draining exchange waitUntil left → s.owed = [] ∧ s.pipe = []
  | .transfer => ∀ exchange waitUntil left, s.phase = .draining exchange waitUntil left →
      left ≤ 1 → s.pipe.tail = []
  | _ => True

/-- What holds in every phase: answers come by their time, no transfer on the way is empty, and
every reply that was returned is the answer to its own request. -/
structure Tracked (s : BulkIo) : Prop where
  due_later : ∀ answer ∈ s.owed, s.now < answer.due
  nonempty : ∀ chunk ∈ s.pipe, chunk.bytes ≠ []
  returned_own : ∀ returned ∈ s.returned, ∀ chunk ∈ returned.2, chunk.request = returned.1.number
  inStep : InStep s.abandoned s.owed s.pipe s.phase

theorem tracked_default : Tracked {} where
  due_later := nofun
  nonempty := nofun
  returned_own := nofun
  inStep := ⟨rfl, rfl⟩

/-- A request sent on a clean pipe is all there is to wait for. -/
private theorem send_tracked {pipe : List Chunk} {begun : Nat} (h : s.Tracked)
    (howed : s.owed = []) (hpipe : pipe = []) (exchange : Exchange) :
    (send { s with pipe, begun } exchange).Tracked := by
  have hsent : (send { s with pipe, begun } exchange).owed =
      [⟨exchange, s.now + exchange.timeout⟩] := by
    rw [send, howed, List.nil_append]
  subst hpipe
  refine ⟨?_, nofun, h.returned_own, ?_⟩
  · rw [hsent]
    intro answer hanswer
    rw [List.mem_singleton.mp hanswer]
    exact Nat.lt_add_of_pos_right (by simp [Exchange.timeout, bulkTimeout, bulkReplyMarginMs])
  · refine ⟨⟨.inr ⟨_, hsent, rfl, rfl⟩, nofun, ?_⟩, _, rfl, .inr ⟨_, hsent, rfl, Nat.le_refl _⟩⟩
    exact (awaits_nil exchange).stops_last

/-- A call that gives up leaves its note for whatever is outstanding. -/
private theorem idle_tracked (h : s.Tracked) {deadline : Nat} (hnote : s.abandoned = some deadline)
    (hone : OneAnswerBy s.owed s.pipe deadline) : Tracked { s with phase := .idle } := by
  refine ⟨h.due_later, h.nonempty, h.returned_own, ?_⟩
  simp only [InStep, hnote]
  exact hone

/-- A reply read to the end of its answer may be returned, and leaves nothing behind. -/
private theorem replyRead_tracked (h : s.Tracked) (howed : s.owed = []) {deadline : Nat}
    (hnote : s.abandoned = some deadline)
    (hown : ∀ chunk ∈ data, chunk.request = exchange.number) (left : Nat) :
    (replyRead { s with pipe := [] } exchange data left).Tracked := by
  unfold replyRead
  split
  · refine ⟨h.due_later, nofun, ?_, howed, rfl⟩
    intro returned hmem
    rcases List.mem_cons.mp hmem with rfl | hmem
    · exact hown
    · exact h.returned_own returned hmem
  · split
    · refine ⟨h.due_later, nofun, h.returned_own, ?_⟩
      simp only [InStep, hnote]
      exact .inl howed
    · refine ⟨h.due_later, nofun, h.returned_own, ?_, deadline, hnote, .inl howed⟩
      rw [howed]
      exact awaits_nil exchange

/-- The adapter's next answer is the one that is outstanding. -/
private theorem answer_tracked {answer : Owed} {rest : List Owed} {transfers : List (List UInt8)}
    (h : s.Tracked) (howed : s.owed = answer :: rest)
    (hframed : Framed answer.exchange.respLen transfers) :
    Tracked { s with
      owed := rest, pipe := s.pipe ++ transfers.map (Chunk.mk answer.exchange.number) } := by
  refine ⟨fun o ho => h.due_later o (howed ▸ List.mem_cons_of_mem _ ho), ?_, h.returned_own, ?_⟩
  · intro chunk hchunk
    rcases List.mem_append.mp hchunk with hchunk | hchunk
    · exact h.nonempty chunk hchunk
    · obtain ⟨transfer, htransfer, rfl⟩ := List.mem_map.mp hchunk
      exact hframed.nonempty transfer htransfer
  · -- only one answer can be outstanding, and while a call waits it is that call's
    have hin := h.inStep
    rw [howed] at hin
    dsimp only
    cases hphase : s.phase with
    | idle =>
      rw [hphase] at hin
      simp only [InStep] at hin ⊢
      split at hin
      · cases hin.1
      · exact .inl hin.of_cons.1
    | draining exchange waitUntil left =>
      rw [hphase] at hin
      exact .inl (OneAnswerBy.of_cons hin).1
    | sending exchange =>
      rw [hphase] at hin
      obtain ⟨hawait, deadline, hnote, hone⟩ := hin
      obtain ⟨rfl, hpipe⟩ := hone.of_cons
      obtain ⟨rfl, -⟩ := hawait.of_cons
      rw [hpipe, List.nil_append]
      exact ⟨awaits_answer hframed, deadline, hnote, .inl rfl⟩
    | reading exchange data left =>
      rw [hphase] at hin
      obtain ⟨hawait, deadline, hnote, hone⟩ := hin
      obtain ⟨rfl, hpipe⟩ := hone.of_cons
      obtain ⟨rfl, rfl⟩ := hawait.of_cons
      rw [hpipe, List.nil_append]
      exact ⟨awaits_answer hframed, deadline, hnote, .inl rfl⟩

/-- A transfer that arrives is drained, or belongs to the answer being read. -/
private theorem transfer_tracked (h : s.Tracked) (hg : s.drainsThrough .transfer)
    (hstep : s.step .transfer = some s') : s'.Tracked := by
  simp only [step] at hstep
  split at hstep
  · rename_i chunk rest hpipe
    have hin := h.inStep
    rw [hpipe] at hin
    have hchunk : chunk.bytes ≠ [] := h.nonempty chunk (by rw [hpipe]; exact List.mem_cons_self)
    have hrest : ∀ c ∈ rest, c.bytes ≠ [] := fun c hc =>
      h.nonempty c (hpipe ▸ List.mem_cons_of_mem _ hc)
    split at hstep
    · rename_i exchange waitUntil left hphase
      rw [hphase] at hin
      have howed := OneAnswerBy.owed_nil hin
      split at hstep
      · rename_i hend
        obtain rfl := Option.some.inj hstep
        have hlast := hg exchange waitUntil left hphase (hend.resolve_left hchunk)
        rw [hpipe] at hlast
        exact send_tracked h howed hlast exchange
      · obtain rfl := Option.some.inj hstep
        exact ⟨h.due_later, hrest, h.returned_own, .inl howed⟩
    · rename_i exchange data left hphase
      rw [hphase] at hin
      obtain ⟨hawait, deadline, hnote, hone⟩ := hin
      have howed := hone.owed_nil
      rw [howed] at hawait
      obtain ⟨hgoes, hstops⟩ := hawait.transfer
      rw [if_neg hchunk] at hstep
      obtain rfl := Option.some.inj hstep
      unfold readOn
      split
      · rename_i hdone
        obtain rfl := hstops hdone
        exact replyRead_tracked h howed hnote (fun c hc => hgoes.own c (List.mem_append_left _ hc)) left
      · refine ⟨h.due_later, hrest, h.returned_own, ?_, deadline, hnote, .inl howed⟩
        rw [howed]
        exact hgoes
    · cases hstep
  · cases hstep

/-- A transfer that fails sends the call home, unless it was draining. -/
private theorem failure_tracked {taken : Bool} (h : s.Tracked) (hg : s.drainsThrough (.failure taken))
    (hstep : s.step (.failure taken) = some s') : s'.Tracked := by
  have hin := h.inStep
  simp only [step] at hstep
  split at hstep
  · rename_i exchange waitUntil left hphase
    obtain rfl := Option.some.inj hstep
    obtain ⟨howed, hpipe⟩ := hg exchange waitUntil left hphase
    exact send_tracked h howed hpipe exchange
  · rename_i exchange hphase
    obtain rfl := Option.some.inj hstep
    rw [hphase] at hin
    obtain ⟨hawait, deadline, hnote, hone⟩ := hin
    cases taken with
    | true => exact idle_tracked h hnote hone
    | false =>
      have hnone : s.owed.filter (·.exchange.number != exchange.number) = [] := by
        rcases hawait.owed_own with howed | ⟨answer, howed, rfl, -⟩
        · rw [howed]
          rfl
        · rw [howed]
          simp
      simp only [Bool.false_eq_true, if_false, hnone]
      refine ⟨nofun, h.nonempty, h.returned_own, ?_⟩
      simp only [InStep, hnote]
      exact .inl rfl
  · rename_i exchange data left hphase
    obtain rfl := Option.some.inj hstep
    rw [hphase] at hin
    obtain ⟨-, deadline, hnote, hone⟩ := hin
    exact idle_tracked h hnote hone
  · cases hstep

/-- A call that begins drains what the note says is outstanding, or finds the pipe clean. -/
private theorem transact_tracked {req : List UInt8} {respLen : {n : Nat // 0 < n}}
    {adapterWaitMs : UInt32} (h : s.Tracked)
    (hstep : s.step (.transact req respLen adapterWaitMs) = some s') : s'.Tracked := by
  have hin := h.inStep
  simp only [step] at hstep
  split at hstep
  · rename_i hphase
    rw [hphase] at hin
    split at hstep
    · rename_i deadline hnote
      obtain rfl := Option.some.inj hstep
      simp only [InStep, hnote] at hin
      refine ⟨h.due_later, h.nonempty, h.returned_own, ?_⟩
      rcases hin with howed | ⟨answer, howed, hpipe, hdue⟩
      · exact .inl howed
      · exact .inr ⟨answer, howed, hpipe, by omega⟩
    · rename_i hnote
      obtain rfl := Option.some.inj hstep
      simp only [InStep, hnote] at hin
      exact send_tracked h hin.1 hin.2 _
  · cases hstep

/-- A call that is dropped at an await. -/
private theorem cancel_tracked (h : s.Tracked) (hg : s.drainsThrough .cancel)
    (hstep : s.step .cancel = some s') : s'.Tracked := by
  have hin := h.inStep
  simp only [step] at hstep
  cases hphase : s.phase with
  | idle =>
    rw [hphase] at hstep
    cases hstep
  | draining exchange waitUntil left =>
    rw [hphase] at hstep
    obtain rfl := Option.some.inj hstep
    obtain ⟨howed, hpipe⟩ := hg exchange waitUntil left hphase
    refine ⟨h.due_later, h.nonempty, h.returned_own, ?_⟩
    simp only [InStep]
    split
    · exact ⟨howed, hpipe⟩
    · exact .inl howed
  | sending exchange =>
    rw [hphase] at hstep hin
    obtain rfl := Option.some.inj hstep
    obtain ⟨-, deadline, hnote, hone⟩ := hin
    exact idle_tracked h hnote hone
  | reading exchange data left =>
    rw [hphase] at hstep hin
    obtain rfl := Option.some.inj hstep
    obtain ⟨-, deadline, hnote, hone⟩ := hin
    exact idle_tracked h hnote hone

/-- One step keeps requests and answers in step, as long as drains are not broken off. -/
theorem step_tracked (h : s.Tracked) (hg : s.drainsThrough a) (hstep : s.step a = some s') :
    s'.Tracked := by
  cases a with
  | tick instant =>
    simp only [step] at hstep
    split at hstep
    · rename_i hlater
      obtain rfl := Option.some.inj hstep
      exact ⟨hlater.2, h.nonempty, h.returned_own, h.inStep⟩
    · cases hstep
  | answer transfers =>
    simp only [step] at hstep
    split at hstep
    · rename_i answer rest howed
      obtain rfl := Option.some.inj hstep
      exact answer_tracked h howed (hg answer rest howed)
    · cases hstep
  | transact req respLen adapterWaitMs => exact transact_tracked h hstep
  | sent =>
    simp only [step] at hstep
    split at hstep
    · rename_i exchange hphase
      obtain rfl := Option.some.inj hstep
      have hin := h.inStep
      rw [hphase] at hin
      have hmore : ¬bulkInDone exchange.respLen (bytesOf []) = true := by
        rw [show bytesOf [] = [] from rfl, bulkInDone_nil exchange.respLen_pos]
        nofun
      rw [readOn, if_neg hmore]
      exact ⟨h.due_later, h.nonempty, h.returned_own, hin⟩
    · cases hstep
  | transfer => exact transfer_tracked h hg hstep
  | drainTimeout =>
    simp only [step] at hstep
    split at hstep
    · rename_i exchange waitUntil left hphase
      split at hstep
      · rename_i hover
        obtain rfl := Option.some.inj hstep
        have hin := h.inStep
        rw [hphase] at hin
        refine send_tracked h ?_ hover.1 exchange
        -- an answer still owed would have been due before the wait ran out
        rcases hin with howed | ⟨answer, howed, -, hdue⟩
        · exact howed
        · have hlater := h.due_later answer (by rw [howed]; exact List.mem_singleton_self _)
          omega
      · cases hstep
    · cases hstep
  | failure taken => exact failure_tracked h hg hstep
  | cancel => exact cancel_tracked h hg hstep

/-- In every run whose drains are not broken off while there is something to drain, and whose
answers are framed, every reply that `transact` returns is made up of transfers of the answer to
its own request. -/
theorem transact_returns_own_answer (h : Reach step drainsThrough {} s)
    (returned : Exchange × List Chunk) (hmem : returned ∈ s.returned) :
    ∀ chunk ∈ returned.2, chunk.request = returned.1.number := by
  have htracked : s.Tracked := Reach.invariant h tracked_default
    fun _ _ _ htracked hg hstep => step_tracked htracked hg hstep
  exact htracked.returned_own returned hmem

/-- Read one register, as `encode_register_read` asks for it. -/
private def registerRead : Action :=
  .transact [0x08, 1, 2, 5, 4, 0, 0, 0] ⟨32, by decide⟩ 1000

private def registerReply (value : UInt8) : List UInt8 :=
  [0x34, value, 0, 0, 0x35, 1, 0, 0, 4, 0, 0, 0]

/-- An exchange after a cancelled one drains the late answer and returns its own. -/
theorem drained_exchange_returns_own_answer : ∃ s, Reach step drainsThrough {} s ∧
    ∃ returned ∈ s.returned, returned.2 = [⟨1, registerReply 9⟩] ∧
      ∀ chunk ∈ returned.2, chunk.request = returned.1.number := by
  have hframed : ∀ value, Framed 32 [registerReply value] := fun value =>
    framed_singleton (by decide) nofun
  have hbegun : Reach step drainsThrough {} _ :=
    ((Reach.refl.tail (a := registerRead) trivial rfl).tail (a := .sent) trivial rfl).tail
      (a := .cancel) (fun _ _ _ h => (nomatch h)) rfl
  have hlate := (hbegun.tail (a := registerRead) trivial rfl).tail (a := .answer [registerReply 7])
    (fun _ _ h => (List.cons.inj h).1 ▸ hframed 7) rfl
  have hdrained := hlate.tail (a := .transfer) (by intro _ _ _ _ _; rfl) rfl
  have hquiet := hdrained.tail (a := .tick 100) (by trivial) rfl
  have hresent := hquiet.tail (a := .drainTimeout) (by trivial) rfl
  have hsent := hresent.tail (a := .sent) (by trivial) rfl
  have hrun := (hsent.tail (a := .answer [registerReply 9])
    (fun _ _ h => (List.cons.inj h).1 ▸ hframed 9) rfl).tail (a := .transfer)
    (fun _ _ _ h => (nomatch h)) rfl
  exact ⟨_, hrun, _, List.mem_cons_self, rfl, transact_returns_own_answer hrun _ List.mem_cons_self⟩

/-- A cancellation during the drain loses the note of the first exchange: the third returns the
first one's answer, which leads with the right id. -/
theorem cancelled_drain_returns_stale_reply : ∃ s, Reach step anyStep {} s ∧
    ∃ returned ∈ s.returned, returned.1.number = 2 ∧ returned.2 = [⟨0, registerReply 7⟩] := by
  obtain ⟨s, hreach, htest⟩ := exists_reach_of_exec step {}
    (fun s => s.returned.any fun returned => returned.1.number == 2 &&
      returned.2 == [⟨0, registerReply 7⟩])
    [registerRead, .sent, .cancel, registerRead, .cancel, .answer [registerReply 7], registerRead,
      .sent, .transfer] (by decide +kernel)
  obtain ⟨returned, hmem, hboth⟩ := List.any_eq_true.mp htest
  simp only [Bool.and_eq_true, beq_iff_eq] at hboth
  exact ⟨s, hreach, returned, hmem, hboth.1, hboth.2⟩

end BulkIo
end Ugpibd.Backend.Ni
