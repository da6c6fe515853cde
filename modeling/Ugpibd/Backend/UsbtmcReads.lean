import Ugpibd.Backend.UsbtmcSteps
import Ugpibd.Library.History

/-! What a USBTMC read takes from the device, reply by reply, and what it returns of it. -/
namespace Ugpibd.Backend.Usbtmc
open Library Operation

def Event.isReply : Event → Bool
  | .replied .. => true
  | _ => false

def Event.isMessage : Event → Bool
  | .message .. => true
  | _ => false

/-- The instrument's data that comes with the event. -/
def Event.data : Event → List UInt8
  | .replied _ data => data
  | _ => []

/-- The data taken from the device, oldest first. -/
def gathered (events : List Event) : List UInt8 := events.reverse.flatMap Event.data

/-- How much the newest request asks for. -/
def requested : List Event → Option Nat
  | .message (.requestDevDepMsgIn want _) _ :: _ => some want
  | _ :: older => requested older
  | [] => none

/-- A reply has no more data than its request asked for. -/
def WithinRequest (event : Event) (older : List Event) : Prop :=
  ∀ want ∈ requested older, event.data.length ≤ want

instance (event : Event) (older : List Event) : Decidable (WithinRequest event older) :=
  inferInstanceAs (Decidable (∀ want ∈ requested older, event.data.length ≤ want))

/-- No reply since. -/
def Unanswered (now earlier : List Event) : Prop :=
  ∃ new, now = new ++ earlier ∧ ∀ event ∈ new, event.isReply = false

/-- A request for so many bytes since, and no reply. -/
def Requested (want : Nat) (now earlier : List Event) : Prop :=
  ∃ recent older termChar tag, now = recent ++ .message (.requestDevDepMsgIn want termChar) tag :: older ∧
    (∀ event ∈ recent, event.isReply = false ∧ event.isMessage = false) ∧ Unanswered older earlier

variable {E : Type} {usb : UsbErrors E} {event : Event} {now earlier new before : List Event}
  {want : Nat} {N : List Event → Prop}

theorem gathered_cons (event : Event) (older : List Event) :
    gathered (event :: older) = gathered older ++ event.data := by
  simp [gathered]

theorem gathered_append (newer older : List Event) :
    gathered (newer ++ older) = gathered older ++ gathered newer := by
  simp [gathered]

theorem gathered_eq_nil (h : ∀ event ∈ new, event.isReply = false) : gathered new = [] := by
  refine List.flatMap_eq_nil_iff.mpr fun event hevent => ?_
  have hreply := h event (List.mem_reverse.mp hevent)
  cases event with
  | replied => cases hreply
  | _ => rfl

theorem requested_aside (h : ∀ event ∈ new, event.isReply = false ∧ event.isMessage = false) :
    requested (new ++ earlier) = requested earlier := by
  induction new with
  | nil => rfl
  | cons event new ih =>
    obtain ⟨hevent, hnew⟩ := List.forall_mem_cons.mp h
    cases event with
    | message => cases hevent.2
    | _ => exact ih hnew

theorem Unanswered.refl : Unanswered now now := ⟨[], rfl, nofun⟩

theorem Unanswered.cons (h : Unanswered now earlier) (hevent : event.isReply = false) :
    Unanswered (event :: now) earlier := by
  obtain ⟨new, rfl, hnew⟩ := h
  exact ⟨event :: new, rfl, List.forall_mem_cons.mpr ⟨hevent, hnew⟩⟩

theorem Unanswered.request {termChar : Option UInt8} {tag : UInt8} (h : Unanswered now earlier) :
    Requested want (.message (.requestDevDepMsgIn want termChar) tag :: now) earlier :=
  ⟨[], now, termChar, tag, rfl, nofun, h⟩

theorem Requested.cons (h : Requested want now earlier)
    (hevent : event.isReply = false ∧ event.isMessage = false) :
    Requested want (event :: now) earlier := by
  obtain ⟨recent, older, termChar, tag, rfl, hrecent, holder⟩ := h
  exact ⟨event :: recent, older, termChar, tag, rfl, List.forall_mem_cons.mpr ⟨hevent, hrecent⟩, holder⟩

theorem Requested.unanswered (h : Requested want now earlier) : Unanswered now earlier := by
  obtain ⟨recent, older, termChar, tag, rfl, hrecent, new, rfl, hnew⟩ := h
  refine ⟨recent ++ .message (.requestDevDepMsgIn want termChar) tag :: new, by simp, ?_⟩
  exact List.forall_mem_append.mpr
    ⟨fun event hevent => (hrecent event hevent).1, List.forall_mem_cons.mpr ⟨rfl, hnew⟩⟩

/-- `R` holds of the events so far and some before them of which `N` did. -/
def From (N : List Event → Prop) (R : List Event → List Event → Prop) : Condition UsbtmcBackend Event :=
  fun _ l => ∃ earlier, N earlier ∧ R l earlier

theorem From.imp {R R' : List Event → List Event → Prop} {c c' : UsbtmcBackend} (h : From N R c now)
    (hR : ∀ earlier, R now earlier → R' new earlier) : From N R' c' new := by
  obtain ⟨earlier, hN, hnow⟩ := h
  exact ⟨earlier, hN, hR earlier hnow⟩

namespace UsbtmcBackend

theorem settling_unanswered : Settling (From N Unanswered) where
  aborted _ _ _ _ h := h.imp fun _ h => h.cons rfl
  stillPending _ _ _ _ h := h.imp fun _ h => h.cons rfl
  cleared _ _ h := h.imp fun _ h => h.cons rfl
  pendingIn _ _ _ := id
  pendingOut _ _ _ := id

theorem sendRequest_ends {termChar : Option UInt8} {tag : UInt8} :
    Ends (fun _ l => N l) (sendMessage usb (.requestDevDepMsgIn want termChar) tag)
      (fun _ => From N (Requested want)) (From N Unanswered) := by
  have hstart : ∀ (c : UsbtmcBackend) l, N l → From N Unanswered c l := fun _ _ h => ⟨_, h, .refl⟩
  have hopen : ∀ c l, From N (Requested want) c l → From N Unanswered c l :=
    fun _ _ h => h.imp fun _ => Requested.unanswered
  have hfail : ∀ {err : Text}, Ends (From N (Requested want)) (fail usb err : Op E Unit)
      (fun _ => From N (Requested want)) (From N Unanswered) :=
    (fail_keeps settling_unanswered).weaken_pre hopen
  unfold sendMessage
  refine ((settle_keeps settling_unanswered).weaken_pre hstart).bind fun _ => ?_
  refine update_bind (K := From N Unanswered) (fun _ _ => id) ?_
  have hsend : Ends (From N Unanswered)
      (send (.message (.requestDevDepMsgIn want termChar) tag) : Op E Unit)
      (fun _ => From N (Requested want)) (From N Unanswered) :=
    send_ends fun _ _ h => h.imp fun _ => Unanswered.request
  refine hsend.bind fun _ => ?_
  refine (usb_keeps.weaken_fail hopen).bind fun answer => ?_
  cases answer with
  | completed _ =>
    have haccepted : Ends (From N (Requested want))
        (send (.accepted (.requestDevDepMsgIn want termChar) tag) : Op E Unit)
        (fun _ => From N (Requested want)) (From N Unanswered) :=
      send_ends fun _ _ h => h.imp fun _ h => h.cons ⟨rfl, rfl⟩
    exact haccepted.bind fun _ => update_ends fun _ _ => id
  | failed _ => exact hfail
  | late => exact fields_bind_of_forall fun _ => hfail

/-- A reply to the request since. -/
def Answered (want : Nat) (data : List UInt8) (now earlier : List Event) : Prop :=
  ∃ tag older, now = .replied tag data :: older ∧ Requested want older earlier

theorem take_answers {tag : UInt8} {received : Received} :
    Ends (From N (Requested want)) (take tag received : Op E Received)
      (fun received => From N (Answered want received.data)) (From N Unanswered) := by
  unfold take
  have hsend : Ends (From N (Requested want)) (send (.replied tag received.data) : Op E Unit)
      (fun _ => From N (Answered want received.data)) (From N Unanswered) :=
    send_ends fun _ _ h => h.imp fun _ h => ⟨tag, _, rfl, h⟩
  refine hsend.bind fun _ => ?_
  refine update_bind (K := From N (Answered want received.data)) (fun _ _ => id) ?_
  exact pure_ends fun _ _ => id

section
variable {cap : Nat} {tag : UInt8}

theorem bulkIn_requested :
    Ends (From N (Requested want)) (bulkIn cap : Op E (Answer E)) (fun _ => From N (Requested want))
      (From N Unanswered) :=
  bulkIn_keeps.weaken_fail fun _ _ h => h.imp fun _ => Requested.unanswered

theorem fail_requested {α : Type} {err : Text} {Q : α → Condition UsbtmcBackend Event} :
    Ends (From N (Requested want)) (fail usb err : Op E α) Q (From N Unanswered) :=
  (fail_keeps settling_unanswered).weaken_pre fun _ _ h => h.imp fun _ => Requested.unanswered

theorem resyncRead_answers {left : Nat} {failure : ParseFailure} :
    Ends (From N (Requested want)) (resyncRead usb cap tag left failure)
      (fun received => From N (Answered want received.data)) (From N Unanswered) := by
  induction left generalizing failure with
  | zero => exact fail_requested
  | succ left ih =>
    unfold resyncRead
    refine bulkIn_requested.bind fun answer => ?_
    cases answer with
    | completed buf =>
      dsimp only
      split
      · exact take_answers
      · exact ih
    | failed _ => exact fail_requested
    | late => exact fail_requested

end

/-- A transfer takes one reply, to a request of its own, or none. -/
theorem readOneTransfer_answers {maxLen : Nat} :
    Ends (fun _ l => N l) (readOneTransfer usb maxLen)
      (fun received => From N (Answered (clampLen maxLen) received.data)) (From N Unanswered) := by
  unfold readOneTransfer
  refine fields_bind_of_forall fun s => ?_
  have htag : Ends (fun _ l => N l) (takeTag : Op E UInt8) (fun _ _ l => N l) (From N Unanswered) :=
    (takeTag_keeps fun _ _ _ => id).weaken_fail fun _ _ h => ⟨_, h, .refl⟩
  refine htag.bind fun tag => sendRequest_ends.bind fun _ => ?_
  refine update_bind (K := From N (Requested (clampLen maxLen))) (fun _ _ => id) ?_
  refine bulkIn_requested.bind fun answer => ?_
  cases answer with
  | completed buf =>
    dsimp only
    split
    · exact take_answers
    · exact resyncRead_answers
  | failed _ => exact fail_requested
  | late => exact fail_requested

end UsbtmcBackend

/-- What a read has is all that was taken since, and it is no more than is wanted if the device kept to
the requests. -/
structure Holds (want : Nat) (out : List UInt8) (new : List Event) : Prop where
  gathered : gathered new = out
  bounded : EachEvent WithinRequest new → out.length ≤ want

/-- Since then the read has taken `out`. -/
def Has (before : List Event) (out : List UInt8) (now : List Event) : Prop :=
  ∃ new, now = new ++ before ∧ gathered new = out

theorem From.has {data out : List UInt8} {left : Nat} {c : UsbtmcBackend}
    (h : From (Has before out) (UsbtmcBackend.Answered left data) c now) (hleft : out.length + left ≤ want) :
    ∃ new, now = new ++ before ∧ Holds want (out ++ data) new := by
  obtain ⟨_, ⟨new, rfl, rfl⟩, tag, _, rfl, recent, _, termChar, request, rfl, hrecent, mid, rfl, hmid⟩ := h
  refine ⟨.replied tag data ::
    (recent ++ .message (.requestDevDepMsgIn left termChar) request :: (mid ++ new)), by simp, ?_, ?_⟩
  · have hquiet : gathered recent = [] := gathered_eq_nil fun event hevent => (hrecent event hevent).1
    rw [gathered_cons, gathered_append, gathered_cons, gathered_append, gathered_eq_nil hmid, hquiet]
    simp [Event.data]
  · rintro ⟨hwithin, -⟩
    have hlength : data.length ≤ left := by
      refine hwithin left ?_
      rw [requested_aside hrecent]
      rfl
    rw [List.length_append]
    omega

namespace UsbtmcBackend

theorem readTransfers_holds {fuel : Nat} {out : List UInt8} (hwant : want ≤ maxReadTransfer)
    (hout : out.length < want) :
    Ends (fun _ l => Has before out l) (readTransfers usb want fuel out)
      (fun received _ l => ∃ new, l = new ++ before ∧ Holds want received.data new)
      (fun _ l => ∃ new, l = new ++ before) := by
  induction fuel generalizing out with
  | zero =>
    refine pure_ends fun c l h => ?_
    obtain ⟨new, rfl, hnew⟩ := h
    exact ⟨new, rfl, hnew, fun _ => hout.le⟩
  | succ fuel ih =>
    have hleft : clampLen (want - out.length) = want - out.length := by
      unfold clampLen
      omega
    have hfailed : ∀ c l, From (Has before out) Unanswered c l → ∃ new, l = new ++ before := by
      rintro _ _ ⟨_, ⟨new, rfl, -⟩, quiet, rfl, -⟩
      exact ⟨quiet ++ new, by simp⟩
    have hone : Ends (fun _ l => Has before out l) (readOneTransfer usb (want - out.length))
        (fun received _ l => ∃ new, l = new ++ before ∧ Holds want (out ++ received.data) new)
        (fun _ l => ∃ new, l = new ++ before) := by
      refine readOneTransfer_answers.weaken (fun _ _ => id) (fun received c l h => ?_) hfailed
      exact h.has (by omega)
    unfold readTransfers
    refine hone.bind fun received => ?_
    split
    · exact pure_ends fun _ _ => id
    · rename_i hmore
      simp only [Bool.or_eq_true, decide_eq_true_eq, not_or, not_le] at hmore
      refine (ih hmore.1.2).weaken_pre ?_
      rintro c l ⟨new, rfl, hholds⟩
      exact ⟨new, rfl, hholds.gathered⟩

/-- What a read returns is all that it took from the device. -/
theorem readMessage_holds {maxLen : Nat} {port : Port UsbtmcBackend Event E} {received : Received}
    (h : ((readMessage usb maxLen).exec port).1 = some (.ok received)) :
    Holds (clampLen maxLen) received.data (sentBy (readMessage usb maxLen) port) := by
  have hclamp : 0 < clampLen maxLen ∧ clampLen maxLen ≤ maxReadTransfer := by
    unfold clampLen maxReadTransfer
    omega
  have hends : Ends (fun _ l => Has port.sent [] l) (readMessage usb maxLen)
      (fun received _ l => ∃ new, l = new ++ port.sent ∧ Holds (clampLen maxLen) received.data new)
      (fun _ l => ∃ new, l = new ++ port.sent) := readTransfers_holds hclamp.2 hclamp.1
  obtain ⟨new, hsent, hholds⟩ := (hends port ⟨[], rfl, rfl⟩).returned h
  rw [sentBy_eq hsent]
  exact hholds

end UsbtmcBackend
end Ugpibd.Backend.Usbtmc
