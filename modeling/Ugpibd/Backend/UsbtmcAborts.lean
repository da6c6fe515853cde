import Ugpibd.Backend.UsbtmcSteps
import Ugpibd.Library.History
import Ugpibd.Library.Runs

/-! A bulk transfer that failed or was cancelled is still open on the wire until the device has said that
it is aborted or cleared. The flags of the backend are to cover what is open, and no message is to be
sent while something is. -/
namespace Ugpibd.Backend.Usbtmc
open Library Operation

/-- The transfers that are open, by tag. -/
@[ext]
structure Wire where
  outgoing : Option UInt8 := none
  incoming : Option UInt8 := none
  deriving DecidableEq, Repr

/-- A request that was accepted has its reply open. An abort closes the transfer it was for. -/
def Wire.take (wire : Wire) : Event → Wire
  | .message _ tag => { wire with outgoing := some tag }
  | .accepted bulk tag =>
    { outgoing := none, incoming := if bulk.isRequest then some tag else wire.incoming }
  | .replied tag _ => { wire with incoming := if wire.incoming = some tag then none else wire.incoming }
  | .aborted .bulkIn tag =>
    { wire with incoming := if wire.incoming = some tag then none else wire.incoming }
  | .aborted .bulkOut tag =>
    { wire with outgoing := if wire.outgoing = some tag then none else wire.outgoing }
  | .stillPending _ _ => wire
  | .cleared => {}

def wireOf (history : List Event) : Wire := history.foldr (fun event wire => wire.take event) {}

@[simp]
theorem wireOf_cons (event : Event) (history : List Event) :
    wireOf (event :: history) = (wireOf history).take event := rfl

/-- A message is sent only when nothing is open. -/
def SentWhenClosed (event : Event) (older : List Event) : Prop :=
  ∀ bulk tag, event = .message bulk tag → wireOf older = {}

/-- An abort was given up on. -/
def GaveUp (history : List Event) : Prop := ∃ endpoint tag, Event.stillPending endpoint tag ∈ history

/-- The flags cover what is open. -/
structure Covers (c : UsbtmcBackend) (wire : Wire) : Prop where
  outgoing : ∀ tag, wire.outgoing = some tag → c.pendingOut = some tag
  incoming : ∀ tag, wire.incoming = some tag → c.pendingIn = some tag

/-- As long as no abort was given up on, every message so far was sent in its time, and `Q` holds. -/
def Orderly (Q : UsbtmcBackend → Wire → Prop) : Condition UsbtmcBackend Event := fun c history =>
  GaveUp history ∨ EachEvent SentWhenClosed history ∧ Q c (wireOf history)

abbrev Covered : Condition UsbtmcBackend Event := Orderly Covers

/-- Nothing is open and no flag is set. -/
def Idle (c : UsbtmcBackend) (wire : Wire) : Prop :=
  c.pendingIn = none ∧ c.pendingOut = none ∧ wire = {}

variable {E : Type} {usb : UsbErrors E} {I J : Condition UsbtmcBackend Event}
  {Q Q' : UsbtmcBackend → Wire → Prop} {c : UsbtmcBackend} {l : List Event}

theorem GaveUp.cons {event : Event} (h : GaveUp l) : GaveUp (event :: l) := by
  obtain ⟨endpoint, tag, hmem⟩ := h
  exact ⟨endpoint, tag, List.mem_cons_of_mem _ hmem⟩

/-- Nothing is sent. -/
theorem Orderly.update {c' : UsbtmcBackend} (h : Orderly Q c l)
    (hQ : Q c (wireOf l) → Q' c' (wireOf l)) : Orderly Q' c' l :=
  Or.imp_right (fun h => ⟨h.1, hQ h.2⟩) h

/-- An event that is not a message. -/
theorem Orderly.event {event : Event} (h : Orderly Q c l) (hevent : ∀ bulk tag, event ≠ .message bulk tag)
    (hQ : Q c (wireOf l) → Q' c ((wireOf l).take event)) : Orderly Q' c (event :: l) :=
  Or.imp GaveUp.cons
    (fun h => ⟨h.1.cons fun bulk tag hmessage => absurd hmessage (hevent bulk tag), hQ h.2⟩) h

theorem Orderly.message {bulk : Bulk} {tag : UInt8} (h : Orderly Q c l)
    (hclosed : Q c (wireOf l) → wireOf l = {}) (hQ : Q c (wireOf l) → Q' c { outgoing := some tag }) :
    Orderly Q' c (.message bulk tag :: l) := by
  refine Or.imp GaveUp.cons (fun h => ⟨h.1.cons fun _ _ _ => hclosed h.2, ?_⟩) h
  rw [wireOf_cons, hclosed h.2]
  exact hQ h.2

theorem Idle.covers {wire : Wire} (h : Idle c wire) : Covers c wire := by
  obtain ⟨-, -, rfl⟩ := h
  exact ⟨nofun, nofun⟩

/-- The flags are all that matters of the fields. -/
theorem Orderly.fields {c' : UsbtmcBackend} (h : Covered c l) (hin : c'.pendingIn = c.pendingIn)
    (hout : c'.pendingOut = c.pendingOut) : Covered c' l :=
  h.update fun hcovers => ⟨fun tag htag => hout.trans (hcovers.outgoing tag htag),
    fun tag htag => hin.trans (hcovers.incoming tag htag)⟩

theorem Orderly.covered (h : Orderly Idle c l) : Covered c l := h.update Idle.covers

/-- Giving up on an abort ends what is said. -/
theorem orderly_stillPending {endpoint : Endpoint} {tag : UInt8} :
    Orderly Q c (.stillPending endpoint tag :: l) := .inl ⟨endpoint, tag, List.mem_cons_self⟩

section
variable {flag slot : Option UInt8} (hcovers : ∀ tag, slot = some tag → flag = some tag)
include hcovers

/-- Without a flag nothing is open. -/
theorem slot_eq_none (hflag : flag = none) : slot = none := by
  cases hslot : slot with
  | none => rfl
  | some tag =>
    rw [hcovers tag hslot] at hflag
    cases hflag

/-- The transfer that is flagged is the one that is open, if one is. -/
theorem slot_closed {tag : UInt8} (hflag : flag = some tag) :
    (if slot = some tag then none else slot) = none := by
  split
  · rfl
  · rename_i hother
    cases hslot : slot with
    | none => rfl
    | some other =>
      have hsame := (hcovers other hslot).symm.trans hflag
      exact absurd (hslot.trans hsame) hother

end

theorem Covers.incoming_none {wire : Wire} (h : Covers c wire) (hpending : c.pendingIn = none) :
    wire.incoming = none := slot_eq_none h.incoming hpending

theorem Covers.outgoing_none {wire : Wire} (h : Covers c wire) (hpending : c.pendingOut = none) :
    wire.outgoing = none := slot_eq_none h.outgoing hpending

theorem Covers.close_incoming {wire : Wire} {tag : UInt8} (h : Covers c wire)
    (hpending : c.pendingIn = some tag) :
    wire.take (.aborted .bulkIn tag) = { wire with incoming := none } :=
  Wire.ext rfl (slot_closed h.incoming hpending)

theorem Covers.close_outgoing {wire : Wire} {tag : UInt8} (h : Covers c wire)
    (hpending : c.pendingOut = some tag) :
    wire.take (.aborted .bulkOut tag) = { wire with outgoing := none } :=
  Wire.ext (slot_closed h.outgoing hpending) rfl

theorem covers_closed : Covers c {} := ⟨nofun, nofun⟩

namespace UsbtmcBackend

/-- A clear closes everything on the wire first, and the flags when it is through. -/
theorem clearDevice_ends : Ends Covered (clearDevice usb) (fun _ => Orderly Idle) Covered := by
  have hclosed : ∀ c l, Orderly (fun _ wire => wire = {}) c l → Covered c l :=
    fun c l h => h.update fun hwire => hwire ▸ covers_closed
  unfold clearDevice
  refine controlIn_keeps.bind fun reply => checkStatus_keeps.bind fun _ => ?_
  refine (pollClear_ends (J := Orderly fun _ wire => wire = {}) fun c l h =>
    h.event nofun fun _ => rfl).bind fun _ => ?_
  refine (resetBulk_keeps.weaken_fail hclosed).bind fun _ => ?_
  refine (resetBulk_keeps.weaken_fail hclosed).bind fun _ => ?_
  exact update_ends fun c l h => h.update fun hwire => ⟨rfl, rfl, hwire⟩

/-- The first abort closes the reply that is open. -/
theorem abortIn_ends (c₀ : UsbtmcBackend) :
    Ends (Orderly fun c wire => c = c₀ ∧ Covers c wire) (onPending c₀.pendingIn (abortBulkIn usb))
      (fun _ => Orderly fun c wire => c = c₀ ∧ Covers c wire ∧ wire.incoming = none) Covered := by
  unfold onPending
  split
  · rename_i tag hpending
    refine (abortBulkIn_ends
      (J := Orderly fun c wire => c = c₀ ∧ Covers c wire ∧ wire.incoming = none) ?_
      fun _ _ _ => orderly_stillPending).weaken_fail ?_
    · intro c l h
      refine h.event nofun ?_
      rintro ⟨rfl, hcovers⟩
      rw [hcovers.close_incoming hpending]
      exact ⟨rfl, ⟨hcovers.outgoing, nofun⟩, rfl⟩
    · rintro c l (h | h)
      · exact h.update And.right
      · exact h.update fun h => h.2.1
  · rename_i hpending
    refine pure_ends fun c l h => h.update ?_
    rintro ⟨rfl, hcovers⟩
    exact ⟨rfl, hcovers, hcovers.incoming_none hpending⟩

/-- The second closes the message, and with it the wire. -/
theorem abortOut_ends (c₀ : UsbtmcBackend) :
    Ends (Orderly fun c wire => c = c₀ ∧ Covers c wire ∧ wire.incoming = none)
      (onPending c₀.pendingOut (abortBulkOut usb)) (fun _ => Orderly fun _ wire => wire = {})
      Covered := by
  unfold onPending
  split
  · rename_i tag hpending
    refine (abortBulkOut_ends (J := Orderly fun _ wire => wire = {}) ?_
      fun _ _ _ => orderly_stillPending).weaken_fail ?_
    · intro c l h
      refine h.event nofun ?_
      rintro ⟨rfl, hcovers, hincoming⟩
      rw [hcovers.close_outgoing hpending, hincoming]
    · rintro c l (h | h)
      · exact h.update fun h => h.2.1
      · exact h.update fun hwire => hwire ▸ covers_closed
  · rename_i hpending
    refine pure_ends fun c l h => h.update ?_
    rintro ⟨rfl, hcovers, hincoming⟩
    exact Wire.ext (hcovers.outgoing_none hpending) hincoming

/-- Afterwards nothing is open, or the pipe could not be put right and the flags still say so. -/
theorem settle_ends : Ends Covered (settle usb) (fun _ => Orderly Idle) Covered := by
  unfold settle
  refine fields_bind fun c₀ => ?_
  split
  · rename_i hpending
    refine pure_ends fun c l h => ?_
    obtain ⟨rfl, hcovered⟩ := h
    refine hcovered.update fun hcovers => ⟨hpending.1, hpending.2, ?_⟩
    exact Wire.ext (hcovers.outgoing_none hpending.2) (hcovers.incoming_none hpending.1)
  · have haborts : Ends (fun c l => c = c₀ ∧ Covered c l) (do
        onPending c₀.pendingIn (abortBulkIn usb)
        onPending c₀.pendingOut (abortBulkOut usb))
        (fun _ => Orderly fun _ wire => wire = {}) Covered := by
      have hstart : ∀ c l, c = c₀ ∧ Covered c l → Orderly (fun c wire => c = c₀ ∧ Covers c wire) c l :=
        fun c l h => h.2.update fun hcovers => ⟨h.1, hcovers⟩
      exact ((abortIn_ends c₀).bind fun _ => abortOut_ends c₀).imp (fun _ => hstart _ _)
        (fun _ _ => id) fun _ => id
    refine (Interruptible.Ends.attempt haborts).bind fun aborted => ?_
    cases aborted with
    | ok _ =>
      refine (pure_ends (Q := fun _ => Orderly fun _ wire => wire = {}) fun _ _ => id).bind fun _ => ?_
      exact update_ends fun c l h => h.update fun hwire => ⟨rfl, rfl, hwire⟩
    | error _ =>
      refine (context_ends clearDevice_ends).bind fun _ => ?_
      exact update_ends fun c l h => h.update fun hidle => ⟨rfl, rfl, hidle.2.2⟩

theorem fail_ends {α : Type} {err : Text} {Q : α → Condition UsbtmcBackend Event} :
    Ends Covered (fail usb err) Q Covered := by
  have hsettle : Keeps Covered (settle usb) :=
    settle_ends.weaken_post fun _ _ _ => Orderly.covered
  unfold fail
  exact (Interruptible.Keeps.attempt hsettle).bind fun _ => bail_ends fun _ _ => id

/-- A message is sent on a quiet pipe; once it is accepted, only a request leaves something open. -/
theorem sendMessage_ends {bulk : Bulk} {tag : UInt8} :
    Ends Covered (sendMessage usb bulk tag) (fun _ => Orderly fun c wire => c.pendingIn = none ∧
      c.pendingOut = none ∧ wire = { incoming := if bulk.isRequest then some tag else none })
      Covered := by
  unfold sendMessage
  refine settle_ends.bind fun _ => ?_
  refine update_bind (K := Orderly fun c wire =>
    c.pendingIn = none ∧ c.pendingOut = some tag ∧ wire = {})
    (fun c l h => h.update fun hidle => ⟨hidle.1, rfl, hidle.2.2⟩) ?_
  have hsend : Ends (Orderly fun c wire => c.pendingIn = none ∧ c.pendingOut = some tag ∧ wire = {})
      (send (.message bulk tag) : Op E Unit) (fun _ => Orderly fun c wire => c.pendingIn = none ∧
        c.pendingOut = some tag ∧ wire = { outgoing := some tag }) Covered :=
    send_ends fun c l h => h.message (fun h => h.2.2) fun h => ⟨h.1, h.2.1, rfl⟩
  have hcovered : ∀ c l, Orderly (fun c wire => c.pendingIn = none ∧ c.pendingOut = some tag ∧
      wire = { outgoing := some tag }) c l → Covered c l := by
    refine fun c l h => h.update ?_
    rintro ⟨-, hout, hwire⟩
    rw [hwire]
    exact ⟨fun other hother => hout.trans hother, nofun⟩
  refine hsend.bind fun _ => (usb_keeps.weaken_fail hcovered).bind fun answer => ?_
  cases answer with
  | completed _ =>
    have haccepted : Ends (Orderly fun c wire => c.pendingIn = none ∧ c.pendingOut = some tag ∧
        wire = { outgoing := some tag }) (send (.accepted bulk tag) : Op E Unit)
        (fun _ => Orderly fun c wire => c.pendingIn = none ∧
          wire = { incoming := if bulk.isRequest then some tag else none }) Covered := by
      refine send_ends fun c l h => h.event nofun ?_
      rintro ⟨hin, -, hwire⟩
      rw [hwire]
      exact ⟨hin, rfl⟩
    refine haccepted.bind fun _ => update_ends fun c l h => h.update ?_
    rintro ⟨hin, hwire⟩
    exact ⟨hin, rfl, hwire⟩
  | failed _ => exact fail_ends.weaken_pre hcovered
  | late =>
    exact fields_bind_of_forall fun _ => fail_ends.weaken_pre hcovered

theorem takeTag_covered : Keeps Covered (takeTag : Op E UInt8) :=
  takeTag_keeps fun _ _ _ h => h.fields rfl rfl

theorem sendMessage_idle {bulk : Bulk} {tag : UInt8} (hbulk : bulk.isRequest = false) :
    Ends Covered (sendMessage usb bulk tag) (fun _ => Orderly Idle) Covered := by
  refine sendMessage_ends.weaken_post fun _ c l h => h.update ?_
  rw [hbulk]
  exact id

theorem writeMessage_idle {data : List UInt8} {eom : Bool} :
    Ends Covered (writeMessage usb data eom) (fun _ => Orderly Idle) Covered := by
  unfold writeMessage
  exact takeTag_covered.bind fun _ => sendMessage_idle rfl

/-- The reply to `tag` is open, and flagged. -/
def Awaiting (tag : UInt8) (c : UsbtmcBackend) (wire : Wire) : Prop :=
  c.pendingIn = some tag ∧ c.pendingOut = none ∧ wire = { incoming := some tag }

theorem covered_of_awaiting (tag : UInt8) :
    ∀ c l, Orderly (Awaiting tag) c l → Covered c l := by
  refine fun c l h => h.update ?_
  rintro ⟨hin, -, hwire⟩
  rw [hwire]
  exact ⟨nofun, fun other hother => hin.trans hother⟩

theorem take_idle {tag : UInt8} {received : Received} :
    Ends (Orderly (Awaiting tag)) (take tag received : Op E Received) (fun _ => Orderly Idle) Covered := by
  unfold take
  have hreplied : Ends (Orderly (Awaiting tag)) (send (.replied tag received.data) : Op E Unit)
      (fun _ => Orderly fun c wire => c.pendingOut = none ∧ wire = {}) Covered := by
    refine send_ends fun c l h => h.event nofun ?_
    rintro ⟨-, hout, hwire⟩
    rw [hwire]
    exact ⟨hout, by simp [Wire.take]⟩
  refine hreplied.bind fun _ => ?_
  refine update_bind (K := Orderly Idle) (fun c l h => h.update fun h => ⟨rfl, h.1, h.2⟩) ?_
  exact pure_keeps

theorem resyncRead_idle {cap : Nat} {tag : UInt8} {left : Nat} {failure : ParseFailure} :
    Ends (Orderly (Awaiting tag)) (resyncRead usb cap tag left failure) (fun _ => Orderly Idle)
      Covered := by
  have hfail : ∀ failure : ParseFailure, Ends (Orderly (Awaiting tag))
      (fail usb failure.text : Op E Received) (fun _ => Orderly Idle) Covered :=
    fun failure => fail_ends.weaken_pre (covered_of_awaiting tag)
  induction left generalizing failure with
  | zero => exact hfail failure
  | succ left ih =>
    unfold resyncRead
    refine (bulkIn_keeps.weaken_fail (covered_of_awaiting tag)).bind fun answer => ?_
    cases answer with
    | completed buf =>
      dsimp only
      split
      · exact take_idle
      · exact ih
    | failed _ => exact hfail failure
    | late => exact hfail failure

theorem readOneTransfer_idle {maxLen : Nat} :
    Ends Covered (readOneTransfer usb maxLen) (fun _ => Orderly Idle) Covered := by
  unfold readOneTransfer
  refine fields_bind_of_forall fun s => takeTag_covered.bind fun tag => sendMessage_ends.bind fun _ => ?_
  refine update_bind (K := Orderly (Awaiting tag)) (fun c l h => h.update fun h => ⟨rfl, h.2⟩) ?_
  refine (bulkIn_keeps.weaken_fail (covered_of_awaiting tag)).bind fun answer => ?_
  cases answer with
  | completed buf =>
    dsimp only
    split
    · exact take_idle
    · exact resyncRead_idle
  | failed _ => exact fail_ends.weaken_pre (covered_of_awaiting tag)
  | late => exact fail_ends.weaken_pre (covered_of_awaiting tag)

theorem readTransfers_idle {want fuel : Nat} {out : List UInt8} :
    Ends (Orderly Idle) (readTransfers usb want fuel out) (fun _ => Orderly Idle) Covered := by
  induction fuel generalizing out with
  | zero => exact pure_keeps
  | succ fuel ih =>
    unfold readTransfers
    refine (readOneTransfer_idle.weaken_pre fun _ _ => Orderly.covered).bind fun received => ?_
    split
    · exact pure_keeps
    · exact ih

theorem readMessage_idle {maxLen : Nat} :
    Ends Covered (readMessage usb maxLen) (fun _ => Orderly Idle) Covered := by
  -- at least one transfer is made
  obtain ⟨fuel, hfuel⟩ : ∃ fuel, clampLen maxLen = fuel + 1 :=
    Nat.exists_eq_add_one.mpr (by unfold clampLen maxReadTransfer; omega)
  unfold readMessage
  rw [hfuel]
  unfold readTransfers
  refine readOneTransfer_idle.bind fun received => ?_
  split
  · exact pure_keeps
  · exact readTransfers_idle

theorem init_idle {myPad : UInt8} : Ends Covered (init usb myPad) (fun _ => Orderly Idle) Covered := by
  unfold init
  refine update_bind (K := Covered) (fun c l h => h.fields rfl rfl) ?_
  refine controlIn_keeps.bind fun reply => ofExcept_keeps.bind fun caps => ?_
  refine update_bind (K := Covered) (fun c l h => h.fields rfl rfl) ?_
  refine (context_ends clearDevice_ends).bind fun _ => ?_
  have hcovered : ∀ c l, Orderly Idle c l → Covered c l := fun _ _ => Orderly.covered
  refine (drainStale_keeps.weaken_fail hcovered).bind fun _ => ?_
  split
  · have hren : Keeps (Orderly Idle) (Interruptible.attempt (ren usb)) :=
      Interruptible.Keeps.attempt remoteLocal_keeps
    refine (hren.weaken_fail hcovered).bind fun _ => ?_
    exact pure_keeps
  · exact pure_keeps

theorem trigger_idle : Ends Covered (trigger usb) (fun _ => Orderly Idle) Covered := by
  unfold trigger
  refine requireUsb488_keeps.bind fun _ => fields_bind_of_forall fun _ => bailIf_keeps.bind fun _ => ?_
  exact takeTag_covered.bind fun _ => sendMessage_idle rfl

end UsbtmcBackend

/-- The calls that use the bulk pipe. -/
def Call.usesPipe : Call → Bool
  | .init _ | .write .. | .read _ | .deviceClear | .trigger | .ifc => true
  | _ => false

open UsbtmcBackend in
theorem Call.op_idle {call : Call} (hpipe : call.usesPipe = true) :
    Ends Covered (call.op usb) (fun _ => Orderly Idle) Covered := by
  cases call with
  | init => exact init_idle
  | write => exact writeMessage_idle
  | read => exact readMessage_idle.then_pure
  | deviceClear => exact clearDevice_ends
  | trigger => exact trigger_idle
  | ifc => exact settle_ends
  | _ => cases hpipe

open UsbtmcBackend in
theorem Call.op_covered {call : Call} (hpipe : call.usesPipe = false) :
    Keeps Covered (call.op usb) := by
  cases call with
  | ren => exact remoteLocal_keeps
  | goToLocal => exact remoteLocal_keeps
  | localLockout => exact remoteLocal_keeps
  | serialPoll =>
    exact (serialPoll_keeps fun _ _ _ h => h.fields rfl rfl).then_pure
  | setControllerPad => exact fun _ h => Orderly.fields h rfl rfl
  | setEos => exact fun _ h => Orderly.fields h rfl rfl
  | setTimeout => exact fun _ h => Orderly.fields h rfl rfl
  | _ => cases hpipe

abbrev CallSession (E : Type) := Session UsbtmcBackend Event E Call

/-- The last call used the pipe and succeeded. -/
def UsedPipe (s : CallSession E) : Prop :=
  s.succeeded = true ∧ (s.done.head?.any Call.usesPipe) = true

structure Kept (s : CallSession E) : Prop where
  covered : s.port.Meets Covered
  idle : UsedPipe s → s.port.Meets (Orderly Idle)

theorem step_kept {s s' : CallSession E} {call : Call × List (Answer E)} (h : Kept s)
    (hstep : Session.step (Call.op usb) s call = some s') : Kept s' := by
  obtain ⟨call, answers⟩ := call
  cases hpipe : call.usesPipe with
  | true =>
    rcases Session.step_cases hstep (Call.op_idle hpipe) h.covered with ⟨-, -, hidle⟩ | ⟨hfailed, -, hs'⟩
    · exact ⟨Orderly.covered hidle, fun _ => hidle⟩
    · refine ⟨hs', fun hused => ?_⟩
      rw [UsedPipe, hfailed] at hused
      cases hused.1
  | false =>
    rcases Session.step_cases hstep (Call.op_covered hpipe) h.covered with
      ⟨-, hdone, hs'⟩ | ⟨hfailed, -, hs'⟩
    · refine ⟨hs', fun hused => ?_⟩
      have hlast := hused.2
      rw [hdone] at hlast
      exact absurd (hpipe.symm.trans hlast) Bool.false_ne_true
    · refine ⟨hs', fun hused => ?_⟩
      rw [UsedPipe, hfailed] at hused
      cases hused.1

/-- A backend that was just made. -/
def newPort (timeoutMs : Nat) (hasInterruptIn : Bool) : Port UsbtmcBackend Event E :=
  { ctrl := { timeoutMs, hasInterruptIn } }

theorem kept_of_reach {timeoutMs : Nat} {hasInterruptIn : Bool} {s : CallSession E}
    (h : Reach (Session.step (Call.op usb)) anyStep { port := newPort timeoutMs hasInterruptIn } s) :
    Kept s :=
  h.invariant (P := Kept) ⟨.inr ⟨trivial, nofun, nofun⟩, nofun⟩ fun _ _ _ h _ => step_kept h

/-- In every run in which no abort is given up on: every message was sent when nothing was open; what is
open is flagged; and when a call that uses the pipe has succeeded nothing is open. -/
theorem messages_wait_for_aborts {timeoutMs : Nat} {hasInterruptIn : Bool} {s : CallSession E}
    (h : Reach (Session.step (Call.op usb)) anyStep { port := newPort timeoutMs hasInterruptIn } s)
    (hgave : ¬GaveUp s.port.sent) :
    EachEvent SentWhenClosed s.port.sent ∧ Covers s.port.ctrl (wireOf s.port.sent) ∧
      (UsedPipe s → wireOf s.port.sent = {}) := by
  obtain ⟨hcovered, hidle⟩ := kept_of_reach h
  obtain ⟨hsent, hcovers⟩ := hcovered.resolve_left hgave
  refine ⟨hsent, hcovers, fun hused => ?_⟩
  exact ((hidle hused).resolve_left hgave).2.2.2

/-- The device's answers when nothing goes wrong with a control request, and with a clear. -/
def acceptsRequest : List (Answer E) := [.completed [statusSuccess]]

def acceptsClear : List (Answer E) :=
  acceptsRequest ++ acceptsRequest ++ [.completed [], .completed []]

def acceptsInit : List (Answer E) :=
  [.completed [statusSuccess, 0, 0, 0, 0, 0]] ++ acceptsClear ++ [.late]

/-- A reply does not come in time, and the device says so often that the abort is pending, and then that
it is done. -/
def lateReply (polls : Nat) : List (Answer E) :=
  [.completed [], .late] ++ acceptsRequest ++ [.completed []] ++
    List.replicate polls (.completed [statusPending])

/-- A read is not answered, its abort takes two polls, and a write follows. -/
theorem messages_wait_for_aborts_write : ∃ s : CallSession Unit,
    s.done = [.write [0x2a] true, .init 0] ∧ EachEvent SentWhenClosed s.port.sent ∧
      wireOf s.port.sent = {} := by
  obtain ⟨s, hreach, htest⟩ := exists_reach_of_exec (Session.step (Call.op oneError))
    { port := newPort 3000 false }
    (fun s => s.succeeded && decide (s.done = [.write [0x2a] true, .init 0]) && decide (s.port.sent =
      [.accepted (.devDepMsgOut [0x2a] true) 2, .message (.devDepMsgOut [0x2a] true) 2,
        .aborted .bulkIn 1, .accepted (.requestDevDepMsgIn 100 none) 1,
        .message (.requestDevDepMsgIn 100 none) 1, .cleared]))
    [(.init 0, acceptsInit), (.read 100, lateReply 2 ++ acceptsRequest ++ [.completed []]),
      (.write [0x2a] true, [.completed []])] (by decide +kernel)
  simp only [Bool.and_eq_true, decide_eq_true_eq] at htest
  obtain ⟨⟨hs, hdone⟩, hsent⟩ := htest
  have hgave : ¬GaveUp s.port.sent := by
    rw [hsent]
    rintro ⟨endpoint, tag, hmem⟩
    simp at hmem
  obtain ⟨horder, -, hclosed⟩ := messages_wait_for_aborts hreach hgave
  exact ⟨s, hdone, horder, hclosed ⟨hs, by rw [hdone]; rfl⟩⟩

/-- The abort stays pending through all its polls, is taken for done, and the next message is sent with
the transfer still open and no flag set. -/
theorem message_sent_before_abort_completed : ∃ s : CallSession Unit,
    Reach (Session.step (Call.op oneError)) anyStep { port := newPort 3000 false } s ∧
      s.succeeded = true ∧ ¬EachEvent SentWhenClosed s.port.sent ∧
      ¬Covers s.port.ctrl (wireOf s.port.sent) := by
  obtain ⟨s, hreach, htest⟩ := exists_reach_of_exec (Session.step (Call.op oneError))
    { port := newPort 3000 false }
    (fun s => s.succeeded && s.port.ctrl.pendingIn == none && decide (s.port.sent =
      [.accepted (.devDepMsgOut [0x2a] true) 2, .message (.devDepMsgOut [0x2a] true) 2,
        .stillPending .bulkIn 1, .accepted (.requestDevDepMsgIn 100 none) 1,
        .message (.requestDevDepMsgIn 100 none) 1, .cleared]))
    [(.init 0, acceptsInit), (.read 100, lateReply handshakePolls ++ [.completed []]),
      (.write [0x2a] true, [.completed []])] (by decide +kernel)
  simp only [Bool.and_eq_true, decide_eq_true_eq, beq_iff_eq] at htest
  obtain ⟨⟨hs, hpending⟩, hsent⟩ := htest
  refine ⟨s, hreach, hs, ?_, ?_⟩
  · rw [hsent]
    rintro ⟨-, hmessage, -⟩
    exact absurd (hmessage _ _ rfl) (by decide)
  · rw [hsent]
    intro hcovers
    have hopen := hcovers.incoming 1 (by decide)
    rw [hpending] at hopen
    cases hopen

end Ugpibd.Backend.Usbtmc
