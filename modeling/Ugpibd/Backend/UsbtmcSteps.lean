import Ugpibd.Backend.UsbtmcOperations

/-! What the steps of the USBTMC backend's operations do, over any condition. -/
namespace Ugpibd.Backend.Usbtmc.UsbtmcBackend
open Library Operation

variable {E : Type} {usb : UsbErrors E} {I J : Condition UsbtmcBackend Event}

theorem bulkIn_keeps {maxLen : Nat} : Keeps I (bulkIn maxLen : Op E (Answer E)) := by
  unfold bulkIn
  exact fields_bind_of_forall fun _ => usb_keeps

theorem controlIn_keeps {request : Request} : Keeps I (controlIn usb request) := by
  unfold controlIn
  refine usb_keeps.bind fun answer => ?_
  cases answer with
  | completed _ => exact pure_keeps
  | failed _ => exact bail_ends fun _ _ => id
  | late => exact bail_ends fun _ _ => id

theorem checkStatus_keeps {request : Request} {reply : List UInt8} :
    Keeps I (checkStatus request reply : Op E Unit) := by
  unfold checkStatus
  split
  · exact bailIf_keeps
  · exact bail_ends fun _ _ => id

/-- A status other than SUCCESS is an error. -/
theorem checkStatus_fails {request : Request} {reply : List UInt8} {Q : Unit → Condition UsbtmcBackend Event}
    (h : reply.head? ≠ some statusSuccess) : Ends I (checkStatus request reply : Op E Unit) Q I := by
  unfold checkStatus
  split
  · rename_i status hhead
    rw [hhead] at h
    have hne : status ≠ statusSuccess := fun heq => h (congrArg some heq)
    rw [bailIf, if_pos hne]
    exact bail_ends fun _ _ => id
  · exact bail_ends fun _ _ => id

theorem resetBulk_keeps {endpoint : Endpoint} : Keeps I (resetBulk usb endpoint) := by
  unfold resetBulk
  refine usb_keeps.bind fun answer => ?_
  cases answer with
  | ok _ => exact pure_keeps
  | error _ => exact bail_ends fun _ _ => id

/-- The loop ends with one of two events. -/
theorem pollAbort_ends {endpoint : Endpoint} {tag : UInt8} {left : Nat}
    (haborted : ∀ c l, I c l → J c (.aborted endpoint tag :: l))
    (hpending : ∀ c l, I c l → J c (.stillPending endpoint tag :: l)) :
    Ends I (pollAbort usb endpoint tag left) (fun _ => J) I := by
  induction left with
  | zero => exact send_ends hpending
  | succ left ih =>
    unfold pollAbort
    refine controlIn_keeps.bind fun status => ?_
    split
    · exact send_ends haborted
    · rename_i hstatus
      split
      · split
        · exact bulkIn_keeps.bind fun _ => ih
        · exact ih
      · exact checkStatus_fails hstatus

/-- The device took the request: the loop, and the endpoint made usable. -/
theorem abortAccepted_ends {endpoint : Endpoint} {tag : UInt8} {left : Nat}
    (haborted : ∀ c l, I c l → J c (.aborted endpoint tag :: l))
    (hpending : ∀ c l, I c l → J c (.stillPending endpoint tag :: l)) :
    Ends I (do
        pollAbort usb endpoint tag left
        resetBulk usb endpoint)
      (fun _ => J) (fun c l => I c l ∨ J c l) :=
  ((pollAbort_ends haborted hpending).weaken_fail fun _ _ => Or.inl).bind fun _ =>
    resetBulk_keeps.weaken_fail fun _ _ => Or.inr

/-- It did not: there was no such transfer, or the abort fails. -/
theorem abortRefused_ends {endpoint : Endpoint} {tag : UInt8} {reply : List UInt8}
    (hreply : reply.head? ≠ some statusSuccess)
    (haborted : ∀ c l, I c l → J c (.aborted endpoint tag :: l)) :
    Ends I (if reply.head? = some statusTransferNotInProgress then do
        send (.aborted endpoint tag)
        resetBulk usb endpoint
      else checkStatus (.initiateAbort endpoint) reply)
      (fun _ => J) (fun c l => I c l ∨ J c l) := by
  split
  · exact (send_ends haborted).bind fun _ => resetBulk_keeps.weaken_fail fun _ _ => Or.inr
  · exact (checkStatus_fails hreply).weaken_fail fun _ _ => Or.inl

theorem abortBulkIn_ends {tag : UInt8} (haborted : ∀ c l, I c l → J c (.aborted .bulkIn tag :: l))
    (hpending : ∀ c l, I c l → J c (.stillPending .bulkIn tag :: l)) :
    Ends I (abortBulkIn usb tag) (fun _ => J) (fun c l => I c l ∨ J c l) := by
  unfold abortBulkIn
  refine (controlIn_keeps.weaken_fail fun _ _ => Or.inl).bind fun reply => ?_
  split
  · refine (resetBulk_keeps.weaken_fail fun _ _ => Or.inl).bind fun _ => ?_
    exact abortAccepted_ends haborted hpending
  · exact abortRefused_ends ‹_› haborted

theorem abortBulkOut_ends {tag : UInt8} (haborted : ∀ c l, I c l → J c (.aborted .bulkOut tag :: l))
    (hpending : ∀ c l, I c l → J c (.stillPending .bulkOut tag :: l)) :
    Ends I (abortBulkOut usb tag) (fun _ => J) (fun c l => I c l ∨ J c l) := by
  unfold abortBulkOut
  refine (controlIn_keeps.weaken_fail fun _ _ => Or.inl).bind fun reply => ?_
  split
  · exact abortAccepted_ends haborted hpending
  · exact abortRefused_ends ‹_› haborted

/-- The device says that it is cleared, or the loop fails. -/
theorem pollClear_ends {left : Nat} (hcleared : ∀ c l, I c l → J c (.cleared :: l)) :
    Ends I (pollClear usb left) (fun _ => J) I := by
  induction left with
  | zero => exact bail_ends fun _ _ => id
  | succ left ih =>
    unfold pollClear
    refine controlIn_keeps.bind fun status => ?_
    split
    · exact send_ends hcleared
    · rename_i hstatus
      split
      · split
        · exact bulkIn_keeps.bind fun _ => ih
        · exact ih
      · exact checkStatus_fails hstatus

theorem requireUsb488_keeps {what : String} : Keeps I (requireUsb488 what : Op E Unit) := by
  unfold requireUsb488
  exact fields_bind_of_forall fun _ => bailIf_keeps

theorem remoteLocal_keeps {what : String} {request : Request} :
    Keeps I (remoteLocal usb what request) := by
  unfold remoteLocal requireRemoteLocal
  refine (requireUsb488_keeps.bind fun _ => fields_bind_of_forall fun _ => bailIf_keeps).bind
    fun _ => ?_
  exact controlIn_keeps.bind fun _ => checkStatus_keeps

theorem drainStale_keeps {left : Nat} : Keeps I (drainStale left : Op E Unit) := by
  induction left with
  | zero => exact pure_keeps
  | succ left ih =>
    unfold drainStale
    refine bulkIn_keeps.bind fun answer => ?_
    split
    · exact ih
    · exact pure_keeps

theorem takeTag_keeps (htag : ∀ c l tag, I c l → I { c with tag } l) :
    Keeps I (takeTag : Op E UInt8) := by
  unfold takeTag
  refine update_bind (K := I) (fun c l => htag c l _) ?_
  exact fields_bind_of_forall fun _ => pure_keeps

theorem serialPoll_keeps {latched notified : Option UInt8}
    (htag : ∀ c l statusTag, I c l → I { c with statusTag } l) :
    Keeps I (serialPoll usb latched notified) := by
  unfold serialPoll
  refine requireUsb488_keeps.bind fun _ => ?_
  cases latched with
  | some _ => exact pure_keeps
  | none =>
    refine update_bind (K := I) (fun c l => htag c l _) ?_
    refine fields_bind_of_forall fun _ => ?_
    refine controlIn_keeps.bind fun reply => checkStatus_keeps.bind fun _ => bailIf_keeps.bind fun _ => ?_
    unfold statusByte
    refine fields_bind_of_forall fun c => ?_
    split
    · split
      · exact pure_keeps
      · exact bail_ends fun _ _ => id
    · split
      · exact pure_keeps
      · exact bail_ends fun _ _ => id

/-- Putting the pipe right does not touch the condition. -/
structure Settling (I : Condition UsbtmcBackend Event) : Prop where
  aborted : ∀ endpoint tag c l, I c l → I c (.aborted endpoint tag :: l)
  stillPending : ∀ endpoint tag c l, I c l → I c (.stillPending endpoint tag :: l)
  cleared : ∀ c l, I c l → I c (.cleared :: l)
  pendingIn : ∀ c l pendingIn, I c l → I { c with pendingIn } l
  pendingOut : ∀ c l pendingOut, I c l → I { c with pendingOut } l

section
variable (hI : Settling I)
include hI

theorem Settling.settled (c : UsbtmcBackend) (l : List Event) (h : I c l) : I c.settled l :=
  hI.pendingOut { c with pendingIn := none } l none (hI.pendingIn c l none h)

theorem clearDevice_keeps : Keeps I (clearDevice usb) := by
  unfold clearDevice
  refine controlIn_keeps.bind fun _ => checkStatus_keeps.bind fun _ => ?_
  refine (pollClear_ends hI.cleared).bind fun _ => ?_
  refine resetBulk_keeps.bind fun _ => resetBulk_keeps.bind fun _ => ?_
  exact update_ends hI.settled

theorem settle_keeps : Keeps I (settle usb) := by
  have hin : ∀ tag, Keeps I (abortBulkIn usb tag) := fun tag =>
    (abortBulkIn_ends (hI.aborted _ _) (hI.stillPending _ _)).weaken_fail fun _ _ h => h.elim id id
  have hout : ∀ tag, Keeps I (abortBulkOut usb tag) := fun tag =>
    (abortBulkOut_ends (hI.aborted _ _) (hI.stillPending _ _)).weaken_fail fun _ _ h => h.elim id id
  have hpending : ∀ {pending : Option UInt8} {abort : UInt8 → Op E Unit}, (∀ tag, Keeps I (abort tag)) →
      Keeps I (onPending pending abort) := by
    intro pending abort habort
    cases pending with
    | some tag => exact habort tag
    | none => exact pure_keeps
  unfold settle
  refine fields_bind_of_forall fun c => ?_
  split
  · exact pure_keeps
  · have haborts : Keeps I (do
        onPending c.pendingIn (abortBulkIn usb)
        onPending c.pendingOut (abortBulkOut usb)) :=
      (hpending hin).bind fun _ => hpending hout
    refine (Interruptible.Keeps.attempt haborts).bind fun aborted => ?_
    have hrecover : Keeps I (recover usb aborted) := by
      cases aborted with
      | ok _ => exact pure_keeps
      | error _ => exact context_ends (clearDevice_keeps hI)
    exact hrecover.bind fun _ => update_ends hI.settled

/-- It does not return. -/
theorem fail_keeps {α : Type} {err : Text} {Q : α → Condition UsbtmcBackend Event} :
    Ends I (fail usb err) Q I := by
  unfold fail
  exact (Interruptible.Keeps.attempt (settle_keeps hI)).bind fun _ => bail_ends fun _ _ => id

end

/-- What passes on the bulk pipe, and how far it is, does not touch the condition. -/
structure OffPipe (I : Condition UsbtmcBackend Event) : Prop where
  event : ∀ event c l, I c l → I c (event :: l)
  tag : ∀ c l tag, I c l → I { c with tag } l
  pendingIn : ∀ c l pendingIn, I c l → I { c with pendingIn } l
  pendingOut : ∀ c l pendingOut, I c l → I { c with pendingOut } l

section
variable (hI : OffPipe I)
include hI

theorem OffPipe.settling : Settling I where
  aborted _ _ := hI.event _
  stillPending _ _ := hI.event _
  cleared := hI.event _
  pendingIn := hI.pendingIn
  pendingOut := hI.pendingOut

theorem sendMessage_keeps {bulk : Bulk} {tag : UInt8} : Keeps I (sendMessage usb bulk tag) := by
  unfold sendMessage
  refine (settle_keeps hI.settling).bind fun _ => ?_
  refine update_bind (K := I) (fun c l => hI.pendingOut c l _) ?_
  refine (send_ends (hI.event _)).bind fun _ => usb_keeps.bind fun answer => ?_
  cases answer with
  | completed _ =>
    exact (send_ends (hI.event _)).bind fun _ => update_ends fun c l => hI.pendingOut c l _
  | failed _ => exact fail_keeps hI.settling
  | late => exact fields_bind_of_forall fun _ => fail_keeps hI.settling

theorem writeMessage_keeps {data : List UInt8} {eom : Bool} : Keeps I (writeMessage usb data eom) := by
  unfold writeMessage
  exact (takeTag_keeps hI.tag).bind fun _ => sendMessage_keeps hI

theorem trigger_keeps : Keeps I (trigger usb) := by
  unfold trigger
  refine requireUsb488_keeps.bind fun _ => fields_bind_of_forall fun _ => bailIf_keeps.bind fun _ => ?_
  exact (takeTag_keeps hI.tag).bind fun _ => sendMessage_keeps hI

theorem take_keeps {tag : UInt8} {received : Received} :
    Keeps I (take tag received : Op E Received) := by
  unfold take
  refine (send_ends (hI.event _)).bind fun _ => ?_
  refine update_bind (K := I) (fun c l => hI.pendingIn c l _) ?_
  exact pure_keeps

theorem resyncRead_keeps {cap : Nat} {tag : UInt8} {left : Nat} {failure : ParseFailure} :
    Keeps I (resyncRead usb cap tag left failure) := by
  induction left generalizing failure with
  | zero => exact fail_keeps hI.settling
  | succ left ih =>
    unfold resyncRead
    refine bulkIn_keeps.bind fun answer => ?_
    cases answer with
    | completed buf =>
      dsimp only
      split
      · exact take_keeps hI
      · exact ih
    | failed _ => exact fail_keeps hI.settling
    | late => exact fail_keeps hI.settling

theorem readOneTransfer_keeps {maxLen : Nat} : Keeps I (readOneTransfer usb maxLen) := by
  unfold readOneTransfer
  refine fields_bind_of_forall fun s => (takeTag_keeps hI.tag).bind fun tag => ?_
  refine (sendMessage_keeps hI).bind fun _ => ?_
  refine update_bind (K := I) (fun c l => hI.pendingIn c l _) ?_
  refine bulkIn_keeps.bind fun answer => ?_
  cases answer with
  | completed buf =>
    dsimp only
    split
    · exact take_keeps hI
    · exact resyncRead_keeps hI
  | failed _ => exact fail_keeps hI.settling
  | late => exact fail_keeps hI.settling

theorem readMessage_keeps {maxLen : Nat} : Keeps I (readMessage usb maxLen) := by
  have htransfers : ∀ fuel out, Keeps I (readTransfers usb (clampLen maxLen) fuel out) := by
    intro fuel
    induction fuel with
    | zero => exact fun out => pure_keeps
    | succ fuel ih =>
      intro out
      unfold readTransfers
      refine (readOneTransfer_keeps hI).bind fun received => ?_
      split
      · exact pure_keeps
      · exact ih _
  exact htransfers _ _

end
end Ugpibd.Backend.Usbtmc.UsbtmcBackend
