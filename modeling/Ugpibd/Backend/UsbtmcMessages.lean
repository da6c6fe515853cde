import Ugpibd.Backend.UsbtmcReads

/-! A device splits its message into transfers as it likes, and a read puts it together again. -/
namespace Ugpibd.Backend.Usbtmc
open Library Operation

variable {E : Type} {usb : UsbErrors E}

/-- A DEV_DEP_MSG_IN transfer. The alignment bytes are not part of the message. -/
structure InTransfer where
  data : List UInt8
  eom : Bool
  termCharSeen : Bool
  alignment : List UInt8
  deriving DecidableEq, Repr

namespace InTransfer

/-- The transfer ends the message, or the part of it up to the terminator. -/
def ended (t : InTransfer) : Bool := t.eom || t.termCharSeen

def attributes (t : InTransfer) : UInt8 :=
  (if t.eom then 0x01 else 0) ||| (if t.termCharSeen then 0x02 else 0)

/-- The transfer as it is sent under a tag. -/
def encode (t : InTransfer) (tag : UInt8) : List UInt8 :=
  [msgidDevDepMsgIn, tag, ~~~tag, 0, UInt8.ofNat t.data.length, UInt8.ofNat (t.data.length / 2 ^ 8),
    UInt8.ofNat (t.data.length / 2 ^ 16), UInt8.ofNat (t.data.length / 2 ^ 24), t.attributes, 0, 0, 0] ++
    (t.data ++ t.alignment)

theorem attributes_end (t : InTransfer) : (t.attributes &&& 0x03 != 0) = t.ended := by
  unfold attributes ended
  cases t.eom <;> cases t.termCharSeen <;> rfl

theorem parse_encode {t : InTransfer} {tag : UInt8} (h : t.data.length < 2 ^ 32) :
    parseDevDepMsgIn (t.encode tag) tag = .ok { data := t.data, ended := t.ended } := by
  have hsize : (UInt8.ofNat t.data.length).toNat + (UInt8.ofNat (t.data.length / 2 ^ 8)).toNat * 2 ^ 8 +
      (UInt8.ofNat (t.data.length / 2 ^ 16)).toNat * 2 ^ 16 +
      (UInt8.ofNat (t.data.length / 2 ^ 24)).toNat * 2 ^ 24 = t.data.length := by
    simp only [UInt8.toNat_ofNat']
    omega
  have hlong : ¬(t.encode tag).length < headerLen := by simp [encode, headerLen]
  unfold parseDevDepMsgIn
  rw [if_neg hlong]
  have hdrop : (t.encode tag).drop headerLen = t.data ++ t.alignment := rfl
  have hid : (t.encode tag).getD 0 0 = msgidDevDepMsgIn := rfl
  have htag : (t.encode tag).getD 1 0 = tag := rfl
  have hinverse : (t.encode tag).getD 2 0 = ~~~tag := rfl
  have hattributes : (t.encode tag).getD 8 0 = t.attributes := rfl
  rw [if_neg (not_not_intro hid), if_neg (not_not_intro htag), if_neg (not_not_intro hinverse), hdrop,
    hattributes, attributes_end]
  change (.ok ⟨(t.data ++ t.alignment).take ((UInt8.ofNat t.data.length).toNat +
    (UInt8.ofNat (t.data.length / 2 ^ 8)).toNat * 2 ^ 8 +
    (UInt8.ofNat (t.data.length / 2 ^ 16)).toNat * 2 ^ 16 +
    (UInt8.ofNat (t.data.length / 2 ^ 24)).toNat * 2 ^ 24), t.ended, false⟩ :
    Except ParseFailure Received) = _
  rw [hsize, List.take_left]

end InTransfer

/-- The transfer arrives in these requests. -/
def Carries (maxPacketSize cap : Nat) (buf : List UInt8) (urbs : List (Answer E)) : Prop :=
  ∀ rest, (gatherBulkIn maxPacketSize cap cap [] : Usb E Text (Answer E)) (urbs ++ rest) =
    some (.ok (.completed buf), rest)

/-- So many transfers that cannot be parsed, and then this one. -/
inductive Behind (maxPacketSize cap : Nat) (tag : UInt8) (buf : List UInt8) :
    Nat → List (Answer E) → Prop
  | now {urbs : List (Answer E)} : Carries maxPacketSize cap buf urbs → Behind maxPacketSize cap tag buf 0 urbs
  | stale {other : List UInt8} {failure : ParseFailure} {n : Nat} {urbs answers : List (Answer E)} :
      Carries maxPacketSize cap other urbs → parseDevDepMsgIn other tag = .error failure →
      Behind maxPacketSize cap tag buf n answers → Behind maxPacketSize cap tag buf (n + 1) (urbs ++ answers)

/-- The transfers of a message: EOM is on the last one, and the others are not empty. -/
def IsMessage : List InTransfer → Prop
  | [] => False
  | t :: ts => t.eom = true ∧ ts = [] ∨ t.eom = false ∧ t.data ≠ [] ∧ IsMessage ts

/-- The transfers up to the first that ended at the terminator. -/
def upToTerminator : List InTransfer → List InTransfer
  | [] => []
  | t :: ts => t :: if t.termCharSeen then [] else upToTerminator ts

/-- The device answers the requests after the one with this tag by these transfers, none of them longer
than what is still wanted, until that is all or one ends the read. -/
def Serves (maxPacketSize : Nat) : UInt8 → Nat → List InTransfer → List (Answer E) → Prop
  | _, _, [], _ => True
  | tag, want, t :: ts, answers =>
    t.data.length ≤ want ∧ ∃ ack n mine later, answers = .completed ack :: (mine ++ later) ∧
      n ≤ readResyncAttempts ∧
      Behind maxPacketSize (UsbtmcBackend.replyCap want) (nextTag tag) (t.encode (nextTag tag)) n mine ∧
      (t.ended = false → t.data.length < want →
        Serves maxPacketSize (nextTag tag) (want - t.data.length) ts later)

def Event.isRequest : Event → Bool
  | .message (.requestDevDepMsgIn ..) _ => true
  | _ => false

/-- How often data was asked for. -/
def requests (events : List Event) : Nat := events.countP Event.isRequest

section
variable {t last : InTransfer} {taken rest ts : List InTransfer}

theorem IsMessage.rest_eq_nil (h : IsMessage (taken ++ last :: rest)) (hlast : last.eom = true) :
    rest = [] := by
  induction taken with
  | nil =>
    rcases h with ⟨-, hrest⟩ | ⟨hmore, -⟩
    · exact hrest
    · rw [hlast] at hmore
      cases hmore
  | cons t taken ih =>
    rcases h with ⟨-, hnil⟩ | ⟨-, -, h⟩
    · cases taken <;> cases hnil
    · exact ih h

theorem IsMessage.filled (h : IsMessage (taken ++ last :: rest)) : ∀ t ∈ taken, t.data ≠ [] := by
  induction taken with
  | nil => exact nofun
  | cons t taken ih =>
    rcases h with ⟨-, hnil⟩ | ⟨-, ht, h⟩
    · cases taken <;> cases hnil
    · exact List.forall_mem_cons.mpr ⟨ht, ih h⟩

theorem length_le_flatMap (h : ∀ t ∈ taken, t.data ≠ []) :
    taken.length ≤ (taken.flatMap InTransfer.data).length := by
  induction taken with
  | nil => exact le_rfl
  | cons t taken ih =>
    obtain ⟨ht, htaken⟩ := List.forall_mem_cons.mp h
    have hpos := List.length_pos_iff.mpr ht
    have hrest := ih htaken
    rw [List.flatMap_cons, List.length_append, List.length_cons]
    omega

theorem upToTerminator_append (h : ∀ t ∈ taken, t.ended = false) :
    upToTerminator (taken ++ ts) = taken ++ upToTerminator ts := by
  induction taken with
  | nil => rfl
  | cons t taken ih =>
    obtain ⟨ht, htaken⟩ := List.forall_mem_cons.mp h
    have hterm : ¬t.termCharSeen = true := by
      simp only [InTransfer.ended, Bool.or_eq_false_iff] at ht
      simp [ht.2]
    rw [List.cons_append, upToTerminator, if_neg hterm, ih htaken]
    rfl

/-- Where a read that had `out` already stops: it has what is wanted, or the last transfer ends it. -/
structure Stops (want : Nat) (out : List UInt8) (taken : List InTransfer) (last : InTransfer) : Prop where
  open_before : ∀ t ∈ taken, t.ended = false
  short_before : (out ++ taken.flatMap InTransfer.data).length < want
  fits : (out ++ (taken ++ [last]).flatMap InTransfer.data).length ≤ want
  stops : last.ended = true ∨ want ≤ (out ++ (taken ++ [last]).flatMap InTransfer.data).length

theorem Stops.cons {want : Nat} {out : List UInt8} (h : Stops want (out ++ t.data) taken last)
    (ht : t.ended = false) : Stops want out (t :: taken) last where
  open_before := List.forall_mem_cons.mpr ⟨ht, h.open_before⟩
  short_before := by simpa [List.append_assoc] using h.short_before
  fits := by simpa [List.append_assoc] using h.fits
  stops := by simpa [List.append_assoc] using h.stops

/-- What was read is the beginning of the message. -/
theorem Stops.data_eq {want : Nat} (h : Stops want [] taken last)
    (hmessage : IsMessage (taken ++ last :: rest)) :
    (taken ++ [last]).flatMap InTransfer.data =
      ((upToTerminator (taken ++ last :: rest)).flatMap InTransfer.data).take want := by
  have hfits : ((taken ++ [last]).flatMap InTransfer.data).length ≤ want := by simpa using h.fits
  have hup : (upToTerminator (taken ++ last :: rest)).flatMap InTransfer.data =
      (taken ++ [last]).flatMap InTransfer.data ++
        (if last.termCharSeen then [] else upToTerminator rest).flatMap InTransfer.data := by
    rw [upToTerminator_append h.open_before, upToTerminator]
    simp
  rw [hup]
  rcases h.stops with hended | hfull
  · have hnone : (if last.termCharSeen then [] else upToTerminator rest) = [] := by
      split
      · rfl
      · rename_i hterm
        have heom : last.eom = true := by
          simpa [InTransfer.ended, hterm] using hended
        rw [hmessage.rest_eq_nil heom]
        rfl
    rw [hnone, List.flatMap_nil, List.append_nil, List.take_of_length_le hfits]
  · rw [List.nil_append] at hfull
    rw [List.take_append_of_le_length hfull, List.take_of_length_le hfits]

theorem Stops.length_lt {want : Nat} (h : Stops want [] taken last)
    (hmessage : IsMessage (taken ++ last :: rest)) : taken.length < want :=
  (length_le_flatMap hmessage.filled).trans_lt (by simpa using h.short_before)

end

namespace UsbtmcBackend

section
variable {m cap n left : Nat} {tag : UInt8} {t : InTransfer} {urbs answers rest : List (Answer E)}
  {buf : List UInt8} {port : Port UsbtmcBackend Event E}

theorem exec_bulkIn (hm : port.ctrl.maxPacketSize = m) (h : Carries m cap buf urbs)
    (hanswers : port.answers = urbs ++ rest) :
    (bulkIn cap : Op E (Answer E)).exec port =
      (some (.ok (.completed buf)), { port with answers := rest }) := by
  have hexec : (bulkIn cap : Op E (Answer E)).exec port =
      (Operation.usb id (gatherBulkIn port.ctrl.maxPacketSize cap cap []) : Op E (Answer E)).exec port := rfl
  rw [hexec, exec_usb, hanswers, hm, h rest]
  rfl

/-- The port once the reply is taken. -/
def taken (port : Port UsbtmcBackend Event E) (tag : UInt8) (data : List UInt8) :
    Port UsbtmcBackend Event E :=
  { port with ctrl := { port.ctrl with pendingIn := none }, sent := .replied tag data :: port.sent }

/-- What a bulk-in that completed leads to. -/
theorem exec_bind_bulkIn {f : Answer E → Op E Received} (hm : port.ctrl.maxPacketSize = m)
    (h : Carries m cap buf urbs) (hanswers : port.answers = urbs ++ rest) :
    (bulkIn cap >>= f).exec port = (f (.completed buf)).exec { port with answers := rest } := by
  rw [Interruptible.exec_bind, exec_bulkIn hm h hanswers]

theorem exec_resyncRead {failure : ParseFailure} (ht : t.data.length < 2 ^ 32)
    (hm : port.ctrl.maxPacketSize = m) (h : Behind m cap tag (t.encode tag) n answers)
    (hanswers : port.answers = answers ++ rest) (hn : n < left) :
    (resyncRead usb cap tag left failure).exec port =
      (some (.ok { data := t.data, ended := t.ended }), taken { port with answers := rest } tag t.data) := by
  induction h generalizing left failure port with
  | now hcarries =>
    obtain ⟨left, rfl⟩ : ∃ k, left = k + 1 := Nat.exists_eq_add_one.mpr hn
    unfold resyncRead
    rw [exec_bind_bulkIn hm hcarries hanswers]
    dsimp only
    rw [InTransfer.parse_encode ht]
    rfl
  | stale hcarries hparse _ ih =>
    obtain ⟨left, rfl⟩ : ∃ k, left = k + 1 := Nat.exists_eq_add_one.mpr (by omega)
    rw [List.append_assoc] at hanswers
    unfold resyncRead
    rw [exec_bind_bulkIn hm hcarries hanswers]
    dsimp only
    rw [hparse]
    exact ih hm rfl (by omega)

/-- The port once a message was accepted. -/
def accepted (port : Port UsbtmcBackend Event E) (bulk : Bulk) (tag : UInt8)
    (rest : List (Answer E)) : Port UsbtmcBackend Event E where
  ctrl := { port.ctrl with pendingOut := none }
  answers := rest
  sent := .accepted bulk tag :: .message bulk tag :: port.sent

theorem exec_sendMessage {bulk : Bulk} {ack : List UInt8} {settled : Port UsbtmcBackend Event E}
    (hsettle : (settle usb).exec port = (some (.ok ()), settled))
    (hanswers : settled.answers = .completed ack :: rest) :
    (sendMessage usb bulk tag).exec port = (some (.ok ()), accepted settled bulk tag rest) := by
  obtain ⟨ctrl, answers, sent⟩ := settled
  obtain rfl := hanswers
  unfold sendMessage
  rw [Interruptible.exec_bind, hsettle]
  rfl

/-- The port with the next tag taken. -/
def tagged (port : Port UsbtmcBackend Event E) : Port UsbtmcBackend Event E :=
  { port with ctrl := { port.ctrl with tag := nextTag port.ctrl.tag } }

/-- The request a read of so many bytes sends. -/
def readRequest (c : UsbtmcBackend) (maxLen : Nat) : Bulk :=
  .requestDevDepMsgIn (clampLen maxLen)
    (if c.eosEnabled && c.caps.termChar then some c.eosChar else none)

/-- What a read does once its request is accepted. -/
def awaitReply (usb : UsbErrors E) (cap : Nat) (tag : UInt8) (timeoutMs : Nat) : Op E Received := do
  match ← bulkIn cap with
  | .completed buf => match parseDevDepMsgIn buf tag with
    | .ok received => take tag received
    | .error failure => resyncRead usb cap tag readResyncAttempts failure
  | .failed error => fail usb (Text.context "usbtmc read"
      (Text.context "usbtmc bulk-in failed" (.last (usb.display error))))
  | .late => fail usb (Text.context "usbtmc read"
      (fixedThen "usbtmc bulk-in timed out after " (duration timeoutMs)))

theorem exec_awaitReply {timeoutMs : Nat} (ht : t.data.length < 2 ^ 32)
    (hm : port.ctrl.maxPacketSize = m) (h : Behind m cap tag (t.encode tag) n answers)
    (hanswers : port.answers = answers ++ rest) (hn : n ≤ readResyncAttempts) :
    (awaitReply usb cap tag timeoutMs).exec port =
      (some (.ok { data := t.data, ended := t.ended }), taken { port with answers := rest } tag t.data) := by
  unfold awaitReply
  cases h with
  | now hcarries =>
    rw [exec_bind_bulkIn hm hcarries hanswers]
    dsimp only
    rw [InTransfer.parse_encode ht]
    rfl
  | stale hcarries hparse hbehind =>
    rw [List.append_assoc] at hanswers
    rw [exec_bind_bulkIn hm hcarries hanswers]
    dsimp only
    rw [hparse]
    exact exec_resyncRead ht hm hbehind rfl hn

/-- The port once a request was sent on a pipe that was put right, and answered. -/
def transferred (port settled : Port UsbtmcBackend Event E) (maxLen : Nat) (data : List UInt8)
    (rest : List (Answer E)) : Port UsbtmcBackend Event E where
  ctrl := settled.ctrl.settled
  answers := rest
  sent := .replied (nextTag port.ctrl.tag) data ::
    .accepted (readRequest port.ctrl maxLen) (nextTag port.ctrl.tag) ::
    .message (readRequest port.ctrl maxLen) (nextTag port.ctrl.tag) :: settled.sent

theorem requests_transferred (port settled : Port UsbtmcBackend Event E) (maxLen : Nat)
    (data : List UInt8) (rest : List (Answer E)) :
    requests (transferred port settled maxLen data rest).sent = requests settled.sent + 1 := by
  unfold requests transferred
  rw [List.countP_cons, List.countP_cons, List.countP_cons]
  rfl

/-- One request and the transfer that answers it, behind at most three others. -/
theorem exec_readOneTransfer {maxLen : Nat} {ack : List UInt8} {settled : Port UsbtmcBackend Event E}
    (hsettle : (settle usb).exec (tagged port) = (some (.ok ()), settled))
    (hm : settled.ctrl.maxPacketSize = m) (hanswers : settled.answers = .completed ack :: (answers ++ rest))
    (ht : t.data.length < 2 ^ 32)
    (h : Behind m (replyCap (clampLen maxLen)) (nextTag port.ctrl.tag) (t.encode (nextTag port.ctrl.tag)) n
      answers) (hn : n ≤ readResyncAttempts) :
    (readOneTransfer usb maxLen).exec port = (some (.ok { data := t.data, ended := t.ended }),
      transferred port settled maxLen t.data rest) := by
  have hexec : (readOneTransfer usb maxLen).exec port =
      (sendMessage usb (readRequest port.ctrl maxLen) (nextTag port.ctrl.tag) >>= fun _ =>
        update (fun c => { c with pendingIn := some (nextTag port.ctrl.tag) }) >>= fun _ =>
        awaitReply usb (replyCap (clampLen maxLen)) (nextTag port.ctrl.tag) port.ctrl.timeoutMs).exec
        (tagged port) := rfl
  let sent := accepted settled (readRequest port.ctrl maxLen) (nextTag port.ctrl.tag) (answers ++ rest)
  let waiting := { sent with ctrl := { sent.ctrl with pendingIn := some (nextTag port.ctrl.tag) } }
  have hwaiting : waiting.ctrl.maxPacketSize = m := hm
  have hreply : (awaitReply usb (replyCap (clampLen maxLen)) (nextTag port.ctrl.tag)
      port.ctrl.timeoutMs).exec waiting = _ := exec_awaitReply ht hwaiting h rfl hn
  rw [hexec, Interruptible.exec_bind, exec_sendMessage hsettle hanswers]
  exact hreply

/-- What putting the pipe right leaves alone. -/
theorem settle_frame {settled : Port UsbtmcBackend Event E}
    (h : (settle usb).exec port = (some (.ok ()), settled)) :
    settled.ctrl.maxPacketSize = port.ctrl.maxPacketSize ∧ settled.ctrl.tag = port.ctrl.tag ∧
      requests settled.sent = requests port.sent := by
  have hkeeps : Keeps (fun c l => c.maxPacketSize = port.ctrl.maxPacketSize ∧ c.tag = port.ctrl.tag ∧
      requests l = requests port.sent) (settle usb) := by
    refine settle_keeps ⟨?_, ?_, ?_, fun _ _ _ => id, fun _ _ _ => id⟩
    · exact fun _ _ _ _ h => h
    · exact fun _ _ _ _ h => h
    · exact fun _ _ h => h
  have hkept := (hkeeps port ⟨rfl, rfl, rfl⟩).state
  rw [h] at hkept
  exact hkept

theorem settle_idle (hin : port.ctrl.pendingIn = none) (hout : port.ctrl.pendingOut = none) :
    (settle usb).exec port = (some (.ok ()), port) := by
  unfold settle
  have hidle : (fields : Op E UsbtmcBackend).exec port = (some (.ok port.ctrl), port) := rfl
  rw [Interruptible.exec_bind, hidle]
  dsimp only
  rw [if_pos ⟨hin, hout⟩]
  rfl

theorem exec_readTransfers {want fuel : Nat} {out : List UInt8} {ts : List InTransfer}
    {settled : Port UsbtmcBackend Event E} (hwant : want ≤ maxReadTransfer) (hout : out.length < want)
    (hfuel : want ≤ out.length + fuel) (hmessage : IsMessage ts)
    (hsettle : (settle usb).exec (tagged port) = (some (.ok ()), settled))
    (hserves : Serves settled.ctrl.maxPacketSize port.ctrl.tag (want - out.length) ts settled.answers) :
    ∃ taken last rest after, ts = taken ++ last :: rest ∧
      (readTransfers usb want fuel out).exec port =
        (some (.ok { data := out ++ (taken ++ [last]).flatMap InTransfer.data, ended := last.ended }),
          after) ∧
      Stops want out taken last ∧ requests after.sent = requests port.sent + (taken.length + 1) := by
  induction ts generalizing fuel out port settled with
  | nil => exact hmessage.elim
  | cons t ts ih =>
    obtain ⟨fuel, rfl⟩ : ∃ k, fuel = k + 1 := Nat.exists_eq_add_one.mpr (by omega)
    obtain ⟨hfits, ack, n, mine, later, hanswers, hn, hbehind, hlater⟩ := hserves
    obtain ⟨hpacket, htag, hsent⟩ := settle_frame hsettle
    have hleft : clampLen (want - out.length) = want - out.length := by
      unfold clampLen
      omega
    have hsize : t.data.length < 2 ^ 32 := by
      have hmax : maxReadTransfer = 2 ^ 20 := rfl
      omega
    have hone : (readOneTransfer usb (want - out.length)).exec port = _ :=
      exec_readOneTransfer hsettle rfl hanswers hsize (hleft.symm ▸ hbehind) hn
    have hcount := requests_transferred port settled (want - out.length) t.data later
    rw [hsent] at hcount
    have hlength : (out ++ t.data).length = out.length + t.data.length := List.length_append
    unfold readTransfers
    rw [Interruptible.exec_bind, hone]
    dsimp only
    split
    · rename_i hstop
      have hdata : out ++ t.data = out ++ ([] ++ [t]).flatMap InTransfer.data := by simp
      refine ⟨[], t, ts, transferred port settled (want - out.length) t.data later, rfl, by rw [hdata]; rfl,
        ⟨List.forall_mem_nil _, by simpa using hout, ?_, ?_⟩, hcount⟩
      · rw [← hdata, hlength]
        omega
      · rw [← hdata]
        simp only [Bool.or_eq_true, decide_eq_true_eq, List.isEmpty_iff] at hstop
        rcases hstop with (hended | hfull) | hempty
        · exact .inl hended
        · exact .inr hfull
        · -- only the last transfer of a message may be empty
          rcases hmessage with ⟨heom, -⟩ | ⟨-, hfilled, -⟩
          · exact .inl (by rw [InTransfer.ended, heom]; rfl)
          · exact absurd hempty hfilled
    · rename_i hmore
      simp only [Bool.or_eq_true, decide_eq_true_eq, not_or, not_le, Bool.not_eq_true] at hmore
      obtain ⟨⟨hopen, hshort⟩, -⟩ := hmore
      obtain ⟨hfilled, hnext⟩ : t.data ≠ [] ∧ IsMessage ts := by
        rcases hmessage with ⟨heom, -⟩ | ⟨-, hmessage⟩
        · rw [InTransfer.ended, heom] at hopen
          cases hopen
        · exact hmessage
      have hpos := List.length_pos_iff.mpr hfilled
      have hserves := hlater hopen (by omega)
      -- the pipe is idle now, so there is nothing to put right before the next request
      let after := transferred port settled (want - out.length) t.data later
      have hafter : (settle usb).exec (tagged after) = (some (.ok ()), tagged after) := settle_idle rfl rfl
      have hleft' : want - (out ++ t.data).length = want - out.length - t.data.length := by omega
      have hserves' : Serves (tagged after).ctrl.maxPacketSize after.ctrl.tag
          (want - (out ++ t.data).length) ts (tagged after).answers := by
        rw [hleft']
        exact htag ▸ hserves
      have hfuel' : want ≤ (out ++ t.data).length + fuel := by omega
      obtain ⟨taken, last, rest, final, rfl, hrun, hstops, hrequests⟩ :=
        ih hshort hfuel' hnext hafter hserves'
      refine ⟨t :: taken, last, rest, final, rfl, ?_, hstops.cons hopen, ?_⟩
      · rw [hrun]
        simp [List.append_assoc]
      · rw [hrequests, hcount, List.length_cons]
        change requests port.sent + 1 + (taken.length + 1) = _
        omega

end

/-- A transfer that does not fill the first request. -/
theorem carries_short {m cap : Nat} {buf : List UInt8} (hcap : 0 < cap) (h : buf.length < urbSize m cap) :
    Carries m cap buf ([.completed buf] : List (Answer E)) := by
  intro rest
  obtain ⟨cap, rfl⟩ : ∃ k, cap = k + 1 := Nat.exists_eq_add_one.mpr hcap
  have hrun : (gatherBulkIn m (cap + 1) (cap + 1) [] : Usb E Text (Answer E)) ([.completed buf] ++ rest) =
      (if buf.length < urbSize m (cap + 1) then pure (.completed ([] ++ buf))
        else gatherBulkIn m (cap + 1) cap ([] ++ buf) : Usb E Text (Answer E)) rest := rfl
  rw [hrun, if_pos h]
  rfl

/-- A message in two transfers, and something left in the pipe before the first. -/
def twoTransfers : List InTransfer := [⟨[0x61], false, false, [0, 0, 0]⟩, ⟨[0x62], true, false, []⟩]

def twoTransfersPort : Port UsbtmcBackend Event Unit := answered
  [.completed [], .completed [9, 9, 9], .completed (InTransfer.encode ⟨[0x61], false, false, [0, 0, 0]⟩ 1),
    .completed [], .completed (InTransfer.encode ⟨[0x62], true, false, []⟩ 2)]

/-- A message of which the first transfer ends at the terminator that was set. -/
def lineTransfers : List InTransfer := [⟨[0x61, 0x0a], false, true, []⟩, ⟨[0x62], true, false, []⟩]

def lineTransfersPort : Port UsbtmcBackend Event Unit where
  ctrl := { timeoutMs := 3000, eosEnabled := true, caps := { termChar := true } }
  answers := [.completed [], .completed (InTransfer.encode ⟨[0x61, 0x0a], false, true, []⟩ 1),
    .completed [], .completed (InTransfer.encode ⟨[0x62], true, false, []⟩ 2)]

end UsbtmcBackend
end Ugpibd.Backend.Usbtmc
