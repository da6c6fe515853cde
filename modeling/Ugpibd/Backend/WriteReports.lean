import Ugpibd.Backend.AgilentSteps
import Ugpibd.Backend.NiSteps

/-! What the adapter reports of a write's packets, and what the write makes of it. -/
namespace Ugpibd.Backend
open Library Operation

section Conversation

variable {C P R E α ε : Type}

/-- What was heard of each packet, until an answer does not come or is a failure of the transfer;
with it the answers that are left. -/
def conversation (hear : P → List (Answer E) → Option (R × List (Answer E))) :
    List P → List (Answer E) → List (P × R) × List (Answer E)
  | [], answers => ([], answers)
  | packet :: packets, answers => match hear packet answers with
    | none => ([], answers)
    | some (reply, rest) =>
      let later := conversation hear packets rest
      ((packet, reply) :: later.1, later.2)

variable {hear : P → List (Answer E) → Option (R × List (Answer E))} {start port port' : Port C P E}
  {l : List (P × R)}

theorem conversation_append {packets : List P} {packet : P} {reply : R}
    {answers rest rest' : List (Answer E)} (h : conversation hear packets answers = (l, rest))
    (hl : l.map Prod.fst = packets) (hnext : hear packet rest = some (reply, rest')) :
    conversation hear (packets ++ [packet]) answers = (l ++ [(packet, reply)], rest') := by
  induction packets generalizing l answers with
  | nil =>
    obtain ⟨rfl, rfl⟩ := Prod.mk.inj h
    simp [conversation, hnext]
  | cons first packets ih =>
    rw [conversation] at h
    rw [List.cons_append, conversation]
    cases hfirst : hear first answers with
    | none =>
      rw [hfirst] at h
      obtain ⟨rfl, -⟩ := Prod.mk.inj h
      cases hl
    | some heard =>
      rw [hfirst] at h
      obtain ⟨rfl, hrest⟩ := Prod.mk.inj h
      have hlater := ih (Prod.ext rfl hrest) (List.cons.inj hl).2
      simp only [hlater, List.cons_append]

/-- So much was sent and heard since the start. -/
structure Conversed (hear : P → List (Answer E) → Option (R × List (Answer E)))
    (start port : Port C P E) (l : List (P × R)) : Prop where
  sent : port.sent = (l.map Prod.fst).reverse ++ start.sent
  heard : conversation hear (l.map Prod.fst) start.answers = (l, port.answers)

theorem Conversed.next {packet : P} {reply : R} (h : Conversed hear start port l)
    (hsent : port'.sent = packet :: port.sent)
    (hreply : hear packet port.answers = some (reply, port'.answers)) :
    Conversed hear start port' (l ++ [(packet, reply)]) where
  sent := by simp [hsent, h.sent]
  heard := by
    rw [List.map_append]
    exact conversation_append h.heard rfl hreply

/-- What was heard since the start is so. -/
def Heard (hear : P → List (Answer E) → Option (R × List (Answer E))) (start : Port C P E)
    (N : List (P × R) → Prop) (port : Port C P E) : Prop :=
  ∃ l, Conversed hear start port l ∧ N l

/-- What was heard of the packets an operation sends. -/
def heardBy (hear : P → List (Answer E) → Option (R × List (Answer E))) (p : Operation C P E α)
    (port : Port C P E) : List (P × R) :=
  (conversation hear (sentBy p port).reverse port.answers).1

theorem heard_start : Heard hear start (· = []) start := ⟨[], ⟨rfl, rfl⟩, rfl⟩

/-- Started afresh, an operation that returns leaves what was heard of all its packets. -/
theorem heardBy_of_yields {N : List (P × R) → Prop} {p : Operation C P E α} {a : α}
    (h : Interruptible.Ends (· = port) p (fun _ => Heard hear port N) (fun _ => True))
    (hok : (p.exec port).1 = some (.ok a)) :
    (heardBy hear p port).map Prod.fst = (sentBy p port).reverse ∧ N (heardBy hear p port) := by
  have hpost := h port rfl
  match hexec : p.exec port, hok, hpost with
  | (some (.ok _), after), rfl, hpost =>
    obtain ⟨l, hl, hN⟩ := hpost
    have hsent : sentBy p port = (l.map Prod.fst).reverse := sentBy_eq (by rw [hexec]; exact hl.sent)
    have hheard : heardBy hear p port = l := by
      rw [heardBy, hsent, List.reverse_reverse, hl.heard]
    rw [hheard, hsent, List.reverse_reverse]
    exact ⟨rfl, hN⟩

/-- A transfer that succeeds has used its answers. -/
theorem usb_yields {text : ε → Text} {u : Usb E ε α} {I : Port C P E → Prop}
    {Q : α → Port C P E → Prop}
    (h : ∀ port a rest, I port → u port.answers = some (.ok a, rest) →
      Q a { port with answers := rest }) :
    Interruptible.Ends I (usb text u) Q (fun _ => True) := by
  intro port hport
  rw [exec_usb]
  match hu : u port.answers with
  | none => exact trivial
  | some (.ok a, rest) => exact h port a rest hport hu
  | some (.error _, _) => exact trivial

theorem ofExcept_yields {text : ε → Text} {r : Except ε α} {I : Port C P E → Prop} :
    Interruptible.Ends I (ofExcept text r) (fun a port => r = .ok a ∧ I port) (fun _ => True) := by
  cases r with
  | ok _ => exact fun _ hport => ⟨rfl, hport⟩
  | error _ => exact fun _ _ => trivial

theorem bailIf_yields {b : Prop} [Decidable b] {text : Text} {I : Port C P E → Prop} :
    Interruptible.Ends I (bailIf b text) (fun _ port => ¬b ∧ I port) (fun _ => True) := by
  unfold bailIf
  split
  · exact fun _ _ => trivial
  · exact fun _ hport => ⟨‹_›, hport⟩

theorem bailIf_bind_yields {b : Prop} [Decidable b] {text : Text} {q : Unit → Operation C P E α}
    {I : Port C P E → Prop} {Q : α → Port C P E → Prop}
    (h : Interruptible.Ends I (q ()) Q (fun _ => True)) :
    Interruptible.Ends I (bailIf b text >>= q) Q (fun _ => True) :=
  bailIf_yields.bind fun _ => h.imp (fun _ => And.right) (fun _ _ h => h) fun _ h => h

theorem fields_bind_yields {f : C → Operation C P E α} {I : Port C P E → Prop}
    {Q : α → Port C P E → Prop}
    (h : ∀ c, Interruptible.Ends (fun port => port.ctrl = c ∧ I port) (f c) Q (fun _ => True)) :
    Interruptible.Ends I (fields >>= f) Q (fun _ => True) := fun port hport => h port.ctrl port ⟨rfl, hport⟩

theorem update_yields {f : C → C} {N : List (P × R) → Prop} :
    Interruptible.Ends (Heard hear start N) (update f) (fun _ => Heard hear start N)
      (fun _ => True) := by
  rintro port ⟨l, hl, hN⟩
  exact ⟨l, ⟨hl.sent, hl.heard⟩, hN⟩

/-- A packet that is handed over and answered is heard of. -/
theorem send_bind_yields {packet : P} {N : List (P × R) → Prop} {q : Operation C P E α}
    {T : α → R → Prop}
    (hq : ∀ sent : Port C P E, Interruptible.Ends (· = sent) q
      (fun a port => port.sent = sent.sent ∧ ∃ reply, T a reply ∧
        hear packet sent.answers = some (reply, port.answers)) (fun _ => True)) :
    Interruptible.Ends (Heard hear start N) (do send packet; q)
      (fun a => Heard hear start fun l =>
        ∃ older reply, l = older ++ [(packet, reply)] ∧ T a reply ∧ N older) (fun _ => True) := by
  rintro port ⟨l, hl, hN⟩
  have hexec : (do send packet; q : Operation C P E α).exec port =
      q.exec { port with sent := packet :: port.sent } := rfl
  rw [hexec]
  refine (hq _ _ rfl).imp ?_ fun _ _ => trivial
  rintro a after ⟨hsent, reply, hreply, hheard⟩
  exact ⟨_, hl.next hsent hheard, l, reply, rfl, hreply, hN⟩

end Conversation

namespace NiUsbHs

variable {E : Type}

/-- The reply to a packet, when the exchange succeeds. -/
def hear (packet : Packet) (answers : List (Answer E)) : Option (List UInt8 × List (Answer E)) :=
  match transact packet.op answers with
  | some (.ok reply, rest) => some (reply, rest)
  | _ => none

/-- The data a packet carries. -/
def Packet.data : Packet → List UInt8
  | .dataWrite data .. => data
  | _ => []

/-- Does the adapter count bytes for the packet? -/
def Packet.counted : Packet → Bool
  | .command .. | .dataWrite .. => true
  | _ => false

/-- The reply reports no error, and no bytes that were not transferred. -/
def accepted (packet : Packet) (reply : List UInt8) : Bool :=
  match parseStatusBlock reply with
  | .error _ => false
  | .ok status => status.errorCode == 0 && (!packet.counted || status.count == 0)

/-- The refusals a write does not look at: of taking control and going to standby, of a part of the
command bytes, and a transfer that was aborted; and bytes that are missing of none. -/
def overlooked (packet : Packet) (reply : List UInt8) : Bool :=
  match packet with
  | .takeControl | .goToStandby => !accepted packet reply
  | .command .. => match parseStatusBlock reply with
    | .ok status => status.errorCode == 1 || status.errorCode == 0 && status.count != 0
    | .error _ => false
  | .dataWrite data .. => match parseStatusBlock reply with
    | .ok status => status.errorCode == 1 || data.isEmpty && status.count != 0
    | .error _ => false
  | _ => false

/-- The check a write makes of a reply, if any. -/
def Checked (packet : Packet) (reply : List UInt8) : Prop :=
  match packet with
  | .command bytes _ => ∃ n, parseWriteResponse reply bytes.length = .ok n
  | .dataWrite data .. => parseWriteResponse reply data.length = .ok data.length
  | .takeControl | .goToStandby => True
  | _ => False

theorem parseWriteResponse_ok {reply : List UInt8} {requested n : Nat}
    (h : parseWriteResponse reply requested = .ok n) :
    ∃ status, parseStatusBlock reply = .ok status ∧ (status.errorCode = 0 ∨ status.errorCode = 1) ∧
      n = requested - status.count.toNat := by
  unfold parseWriteResponse at h
  split at h
  · cases h
  · rename_i status hstatus
    refine ⟨status, hstatus, ?_⟩
    split at h
    · rename_i hcode
      exact ⟨.inl hcode, (Except.ok.inj h).symm⟩
    · rename_i hcode
      exact ⟨.inr hcode, (Except.ok.inj h).symm⟩
    all_goals cases h

theorem Checked.accepted {packet : Packet} {reply : List UInt8} (h : Checked packet reply)
    (hoverlooked : overlooked packet reply = false) : accepted packet reply = true := by
  cases packet with
  | takeControl | goToStandby => simpa [overlooked] using hoverlooked
  | command bytes timeoutCode =>
    obtain ⟨n, hn⟩ := h
    obtain ⟨status, hstatus, hcode, -⟩ := parseWriteResponse_ok hn
    simp only [overlooked, hstatus] at hoverlooked
    simp only [NiUsbHs.accepted, hstatus, Packet.counted]
    rcases hcode with hcode | hcode <;> simp_all
  | dataWrite data sendEoi timeoutCode =>
    obtain ⟨status, hstatus, hcode, hn⟩ := parseWriteResponse_ok h
    simp only [overlooked, hstatus] at hoverlooked
    have hcount : status.count = 0 := by
      cases hempty : data.isEmpty with
      | true => simp_all
      | false =>
        have hlen : 0 < data.length := by
          rw [List.length_pos_iff]
          rintro rfl
          cases hempty
        exact UInt16.toNat_inj.mp (by simp only [UInt16.toNat_zero]; omega)
    simp only [NiUsbHs.accepted, hstatus, Packet.counted, hcount]
    rcases hcode with hcode | hcode <;> simp_all
  | interfaceClear | dataRead | registerWrite | registerRead | rearmSrq => cases h

variable {usb : UsbErrors E} {start : NiPort E} {N : List (Packet × List UInt8) → Prop}

theorem exchange_yields {packet : Packet} :
    Interruptible.Ends (Heard hear start N) (exchange usb packet)
      (fun reply => Heard hear start fun l => ∃ older, l = older ++ [(packet, reply)] ∧ N older)
      (fun _ => True) := by
  unfold exchange
  refine (send_bind_yields (T := fun reply heard => heard = reply) fun sent => ?_).imp
    (fun _ h => h) ?_ fun _ h => h
  · refine usb_yields ?_
    rintro _ reply rest rfl hreply
    exact ⟨rfl, reply, rfl, by simp only [hear, hreply]⟩
  · rintro reply port ⟨l, hl, older, _, rfl, rfl, holder⟩
    exact ⟨_, hl, older, rfl, holder⟩

/-- Few enough command bytes are one exchange, and its reply is parsed. -/
theorem commandTransfers_yields {timeoutCode : UInt8} {cmd : List UInt8} (hne : cmd ≠ [])
    (hshort : cmd.length ≤ maxCommandLen) :
    Interruptible.Ends (Heard hear start N) (commandTransfers usb timeoutCode cmd.length cmd)
      (fun _ => Heard hear start fun l => ∃ older reply,
        l = older ++ [(.command cmd timeoutCode, reply)] ∧
        Checked (.command cmd timeoutCode) reply ∧ N older) (fun _ => True) := by
  obtain ⟨fuel, hfuel⟩ := Nat.exists_eq_add_one.mpr (List.length_pos_iff.mpr hne)
  have hchunk : cmd.take maxCommandLen = cmd := List.take_of_length_le hshort
  have hrest : cmd.drop maxCommandLen = [] := List.drop_eq_nil_of_le hshort
  have hdone : commandTransfers usb timeoutCode fuel [] = (pure () : Op E Unit) := by
    cases fuel with
    | zero => rfl
    | succ _ => rfl
  rw [hfuel, commandTransfers, if_pos hne]
  dsimp only
  rw [hchunk, hrest, hdone]
  refine exchange_yields.bind fun reply => ?_
  refine ofExcept_yields.adapt.bind fun n => Interruptible.Ends.pure ?_
  rintro port ⟨hn, l, hl, older, rfl, holder⟩
  exact ⟨_, hl, older, reply, rfl, ⟨n, hn⟩, holder⟩

/-- The bytes that address a write are heard of between the taking of control and the standby. -/
theorem sendCommandNow_yields {cmd : List UInt8} (hne : cmd ≠ [])
    (hshort : cmd.length ≤ maxCommandLen) :
    Interruptible.Ends (Heard hear start N) (sendCommandNow usb cmd true)
      (fun _ => Heard hear start fun l => ∃ older timeoutCode take place standby,
        l = older ++ [(.takeControl, take), (.command cmd timeoutCode, place), (.goToStandby, standby)] ∧
        Checked (.command cmd timeoutCode) place ∧ N older) (fun _ => True) := by
  unfold sendCommandNow
  refine fields_bind_yields fun c => ?_
  unfold sendCommandBounded
  refine (update_yields.imp (fun _ h => h.2) (fun _ _ h => h) fun _ h => h).bind fun _ => ?_
  refine exchange_yields.bind fun take => ?_
  refine (commandTransfers_yields hne hshort).bind fun _ => ?_
  refine exchange_yields.bind fun standby => Interruptible.Ends.pure ?_
  rintro port ⟨_, hl, _, rfl, _, place, rfl, hplace, older, rfl, holder⟩
  exact ⟨_, hl, older, _, take, place, standby, by simp, hplace, holder⟩

/-- The data packets carry all the data, and each reply has reported them transferred. -/
structure DataHeard (data : List UInt8) (l : List (Packet × List UInt8)) : Prop where
  carried : l.flatMap (·.1.data) = data
  checked : ∀ e ∈ l, Checked e.1 e.2

theorem dataHeard_one {data : List UInt8} {sendEoi : Bool} {timeoutCode : UInt8} {reply : List UInt8}
    (h : parseWriteResponse reply data.length = .ok data.length) :
    DataHeard data [(.dataWrite data sendEoi timeoutCode, reply)] where
  carried := by simp [Packet.data]
  checked := by simpa [Checked] using h

theorem DataHeard.cons {chunk rest data : List UInt8} {sendEoi : Bool} {timeoutCode : UInt8}
    {reply : List UInt8} {l : List (Packet × List UInt8)} (hrest : DataHeard rest l)
    (h : parseWriteResponse reply chunk.length = .ok chunk.length) (hdata : chunk ++ rest = data) :
    DataHeard data ((.dataWrite chunk sendEoi timeoutCode, reply) :: l) where
  carried := by
    rw [List.flatMap_cons, hrest.carried]
    exact hdata
  checked := List.forall_mem_cons.mpr ⟨h, hrest.checked⟩

/-- One data transfer, with the two checks of its reply. -/
theorem dataWrite_yields {chunk : List UInt8} {sendEoi : Bool} {timeoutCode : UInt8}
    {q : Op E Unit} {Q : NiPort E → Prop}
    (hq : Interruptible.Ends (Heard hear start fun l => ∃ older reply,
        l = older ++ [(.dataWrite chunk sendEoi timeoutCode, reply)] ∧
        parseWriteResponse reply chunk.length = .ok chunk.length ∧ N older) q (fun _ => Q)
      (fun _ => True)) :
    Interruptible.Ends (Heard hear start N) (do
      let resp ← exchange usb (.dataWrite chunk sendEoi timeoutCode)
      let written ← (ofExcept (·.text) (parseWriteResponse resp chunk.length)).context "ni data write"
      bailIf (written ≠ chunk.length) (.cons "ni data write: instrument accepted only ".toList
        (decimal written) (.cons " of ".toList (decimal chunk.length) (fixed " bytes")))
      q) (fun _ => Q) (fun _ => True) := by
  refine exchange_yields.bind fun reply => ?_
  refine ofExcept_yields.adapt.bind fun written => ?_
  refine bailIf_yields.bind fun _ => ?_
  refine hq.imp ?_ (fun _ _ h => h) fun _ h => h
  rintro port ⟨hwritten, hparse, _, hl, older, rfl, holder⟩
  obtain rfl := not_ne_iff.mp hwritten
  exact ⟨_, hl, older, reply, rfl, hparse, holder⟩

theorem dataWrites_yields {sendEoi : Bool} {timeoutCode : UInt8} {fuel : Nat}
    {remaining : List UInt8} (hfuel : remaining.length ≤ fuel) :
    Interruptible.Ends (Heard hear start N) (dataWrites usb sendEoi timeoutCode fuel remaining)
      (fun _ => Heard hear start fun l => ∃ older new, l = older ++ new ∧ DataHeard remaining new ∧
        N older) (fun _ => True) := by
  induction fuel generalizing remaining N with
  | zero =>
    obtain rfl := List.eq_nil_of_length_eq_zero (Nat.le_zero.mp hfuel)
    rw [dataWrites_eq]
    refine dataWrite_yields (Interruptible.Ends.pure ?_)
    rintro port ⟨_, hl, older, reply, rfl, hreply, holder⟩
    exact ⟨_, hl, older, _, rfl, dataHeard_one hreply, holder⟩
  | succ fuel ih =>
    rw [dataWrites_eq]
    refine dataWrite_yields ?_
    dsimp only
    split
    · rename_i hlast
      have hwhole : remaining.take maxTransferLen = remaining := by
        have happend := List.take_append_drop maxTransferLen remaining
        rwa [List.isEmpty_iff.mp hlast, List.append_nil] at happend
      refine Interruptible.Ends.pure ?_
      rintro port ⟨_, hl, older, reply, rfl, hreply, holder⟩
      refine ⟨_, hl, older, _, rfl, ?_, holder⟩
      rw [hwhole] at hreply ⊢
      exact dataHeard_one hreply
    · have hshort : (remaining.drop maxTransferLen).length ≤ fuel := by
        rw [List.length_drop]
        have : 0 < maxTransferLen := by decide
        omega
      refine (ih hshort).imp (fun _ h => h) ?_ fun _ h => h
      rintro _ port ⟨_, hl, _, new, rfl, hnew, older, reply, rfl, hreply, holder⟩
      refine ⟨_, hl, older, _ :: new, by rw [List.append_assoc]; rfl, ?_, holder⟩
      exact hnew.cons hreply (List.take_append_drop maxTransferLen remaining)

/-- A write that returns has heard of its addressing and of all its data. -/
structure WriteHeard (own pad : UInt8) (data : List UInt8) (l : List (Packet × List UInt8)) : Prop where
  packets : ∃ timeoutCode new, l.map Prod.fst = [.takeControl,
      .command [gpibUnl, talkAddress own, listenAddress pad] timeoutCode, .goToStandby] ++ new ∧
    new.flatMap Packet.data = data
  checked : ∀ e ∈ l, Checked e.1 e.2

theorem NiUsbHsBackend.write_yields {pad : UInt8} {data : List UInt8} {sendEoi : Bool} :
    Interruptible.Ends (· = start) (write usb pad data sendEoi)
      (fun _ => Heard hear start (WriteHeard start.ctrl.myPad pad data)) (fun _ => True) := by
  have hbody : Interruptible.Ends (Heard hear start (· = [])) (do
      sendCommandNow usb [gpibUnl, talkAddress start.ctrl.myPad, listenAddress pad] true
      writeData usb data sendEoi)
      (fun _ => Heard hear start (WriteHeard start.ctrl.myPad pad data)) (fun _ => True) := by
    refine (sendCommandNow_yields (by simp) (by simp [maxCommandLen])).bind fun _ => ?_
    unfold writeData
    refine fields_bind_yields fun c => ?_
    refine (dataWrites_yields le_rfl).imp (fun _ => And.right) ?_ fun _ h => h
    rintro _ port ⟨_, hl, _, new, rfl, hnew, _, timeoutCode, take, place, standby, rfl, hplace, rfl⟩
    refine ⟨_, hl, ⟨timeoutCode, new.map Prod.fst, by simp, ?_⟩, ?_⟩
    · rw [List.flatMap_map]
      exact hnew.carried
    · intro e he
      rcases List.mem_append.mp he with he | he
      · simp only [List.nil_append, List.mem_cons, List.not_mem_nil, or_false] at he
        obtain rfl | rfl | rfl := he
        · trivial
        · exact hplace
        · trivial
      · exact hnew.checked e he
  unfold write
  refine fields_bind_yields fun _ => bailIf_bind_yields ?_
  refine fields_bind_yields fun _ => bailIf_bind_yields ?_
  refine fields_bind_yields fun c => ?_
  rintro port ⟨rfl, -, -, rfl⟩
  exact hbody port heard_start

end NiUsbHs

namespace Agilent

variable {E : Type}

/-- The transfer status of a packet whose bulk-out, interrupt and status request complete. -/
def hear (_ : Packet) : List (Answer E) → Option (List UInt8 × List (Answer E))
  | .completed _ :: .completed _ :: .completed status :: rest => some (status, rest)
  | _ => none

/-- How many bytes a packet has for the bus. -/
def Packet.count : Packet → Nat
  | .gpibCommand cmd => cmd.length
  | .gpibWrite data _ => data.length
  | _ => 0

/-- The count of a transfer status, which nothing looks at. -/
def bytesWritten (status : List UInt8) : Nat :=
  (status.getD 2 0).toNat + 256 * (status.getD 3 0).toNat + 65536 * (status.getD 4 0).toNat +
    16777216 * (status.getD 5 0).toNat

def accepted (packet : Packet) (status : List UInt8) : Bool :=
  decide (6 ≤ status.length) && bytesWritten status == packet.count

/-- A status that counts other than all bytes is not a failure. -/
def overlooked (packet : Packet) (status : List UInt8) : Bool :=
  decide (6 ≤ status.length) && bytesWritten status != packet.count

variable {usb : UsbErrors E} {start : AgilentPort E} {N : List (Packet × List UInt8) → Prop}

namespace GpibController

theorem recovering_yields {p : Op E Unit} {I J : AgilentPort E → Prop}
    (hp : Interruptible.Ends I p (fun _ => J) (fun _ => True)) :
    Interruptible.Ends I (recovering usb p) (fun _ => J) (fun _ => True) := by
  unfold recovering
  refine (Interruptible.Ends.attempt hp).bind fun result => ?_
  cases result with
  | ok _ => exact Interruptible.Ends.pure fun _ h => h
  | error e =>
    have hrecover : Keeps (fun _ _ => True) (recoverFromStall usb) := keeps_true
    exact hrecover.bind fun _ => Interruptible.Ends.throw fun _ h => h

theorem writeBulk_ok {answers rest : List (Answer E)}
    (h : (Agilent.writeBulk : Usb E (ReadFailure E) Unit) answers = some (.ok (), rest)) :
    ∃ out, answers = .completed out :: rest := by
  match answers, h with
  | .completed out :: _, h =>
    cases h
    exact ⟨out, rfl⟩

theorem awaitWriteComplete_ok {answers rest : List (Answer E)}
    (h : (awaitWriteComplete : Usb E (SendFailure E) Unit) answers = some (.ok (), rest)) :
    ∃ notice, answers = .completed notice :: rest := by
  match answers, h with
  | .completed notice :: _, h =>
    cases h
    exact ⟨notice, rfl⟩

theorem getXferStatus_ok {answers rest : List (Answer E)}
    (h : (getXferStatus : Usb E (SendFailure E) Unit) answers = some (.ok (), rest)) :
    ∃ status, answers = .completed status :: rest ∧ 6 ≤ status.length := by
  match answers, h with
  | .completed status :: later, h =>
    change (if status.length < 6 then throw (.statusTooShort status.length) else pure () :
      Usb E (SendFailure E) Unit) later = _ at h
    split at h
    · cases h
    · cases h
      exact ⟨status, rfl, by omega⟩

theorem sendBytes_yields {packet : Packet} :
    Interruptible.Ends (Heard hear start N) (sendBytes usb packet)
      (fun _ => Heard hear start fun l => ∃ older status, l = older ++ [(packet, status)] ∧
        6 ≤ status.length ∧ N older) (fun _ => True) := by
  have hsplit : sendBytes usb packet = (do
      send packet
      (do
        Operation.usb (·.text usb) Agilent.writeBulk
        recovering usb (Operation.usb (·.text usb) awaitWriteComplete)
        recovering usb (Operation.usb (·.text usb) getXferStatus))) := by
    unfold sendBytes GpibController.writeBulk
    simp only [bind_assoc]
  rw [hsplit]
  refine send_bind_yields (T := fun _ (status : List UInt8) => 6 ≤ status.length) fun sent => ?_
  have hout : Interruptible.Ends (· = sent)
      (Operation.usb (·.text usb) Agilent.writeBulk : Op E Unit)
      (fun _ port => port.sent = sent.sent ∧ ∃ out, sent.answers = .completed out :: port.answers)
      (fun _ => True) := by
    refine usb_yields ?_
    rintro port _ rest rfl hwrite
    exact ⟨rfl, writeBulk_ok hwrite⟩
  refine hout.bind fun _ => ?_
  have hwait : Interruptible.Ends (fun port : AgilentPort E =>
        port.sent = sent.sent ∧ ∃ out, sent.answers = .completed out :: port.answers)
      (Operation.usb (·.text usb) awaitWriteComplete)
      (fun _ port => port.sent = sent.sent ∧
        ∃ out notice, sent.answers = .completed out :: .completed notice :: port.answers)
      (fun _ => True) := by
    refine usb_yields ?_
    rintro port _ rest ⟨hsent, out, hanswers⟩ hnotice
    obtain ⟨notice, hrest⟩ := awaitWriteComplete_ok hnotice
    exact ⟨hsent, out, notice, by rw [hanswers, hrest]⟩
  refine (recovering_yields hwait).bind fun _ => ?_
  refine recovering_yields (usb_yields ?_)
  rintro port _ rest ⟨hsent, out, notice, hanswers⟩ hstatus
  obtain ⟨status, hrest, hlen⟩ := getXferStatus_ok hstatus
  exact ⟨hsent, status, hlen, by rw [hanswers, hrest]; rfl⟩

theorem write_yields {pad : UInt8} {data : List UInt8} {sendEoi : Bool} :
    Interruptible.Ends (· = start) (write usb pad data sendEoi)
      (fun _ => Heard hear start fun l => l.map Prod.fst =
        [.gpibCommand [gpibUnl, talkAddress 0, listenAddress pad], .gpibWrite data sendEoi] ∧
        ∀ e ∈ l, 6 ≤ e.2.length) (fun _ => True) := by
  unfold write
  refine fields_bind_yields fun _ => bailIf_bind_yields ?_
  have hcommand : Interruptible.Ends (Heard hear start (· = []))
      (sendCommandBytes usb [gpibUnl, talkAddress 0, listenAddress pad]) _ _ := sendBytes_yields
  refine (hcommand.imp ?_ (fun _ _ h => h) fun _ h => h).bind fun _ => ?_
  · rintro port ⟨-, rfl⟩
    exact heard_start
  refine Interruptible.Ends.imp sendBytes_yields (fun _ h => h) ?_ fun _ h => h
  rintro _ port ⟨_, hl, _, status, rfl, hstatus, _, addressing, rfl, haddressing, rfl⟩
  exact ⟨_, hl, rfl, by simp [hstatus, haddressing]⟩

end GpibController
end Agilent

variable {E : Type}

/-- One byte written to address 5, and every answer as it should be. -/
def NiUsbHs.takesWrite : NiUsbHs.NiPort Unit :=
  NiUsbHs.answered (NiUsbHs.acceptsAddressing ++ NiUsbHs.accepts NiUsbHs.niusbDataWriteOp)

def Agilent.takesWrite : Agilent.AgilentPort Unit :=
  Agilent.answered [.completed [], .completed [], .completed [0, 0, 3, 0, 0, 0],
    .completed [], .completed [], .completed [0, 0, 1, 0, 0, 0]]

/-- Taking control and going to standby are refused, and two of the three command bytes not placed. -/
def NiUsbHs.refusesAddressing : NiUsbHs.NiPort Unit :=
  NiUsbHs.answered ([.completed [], .completed [NiUsbHs.niusbIbcacId, 0, 0, 3, 0, 0, 0, 0],
      .completed [], .completed [NiUsbHs.niusbCommandOp, 0, 0, 0, 0xfe, 0xff, 0, 0],
      .completed [], .completed [NiUsbHs.niusbIbgtsId, 0, 0, 3, 0, 0, 0, 0]] ++
    NiUsbHs.accepts NiUsbHs.niusbDataWriteOp)

end Ugpibd.Backend
