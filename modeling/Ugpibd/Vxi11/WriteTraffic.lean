import Ugpibd.Vxi11.TransferLog

/-! What a `device_write` puts on the bus, whatever the backend makes of it. -/
namespace Ugpibd.Vxi11.BusSettings
open Library Backend Messages DataCalls

/-- The link is not aborted, and some of the deadline is left. -/
def Look.goesOn (look : Look) : Bool := !look.aborted && look.remaining != 0

def Send.acknowledged (s : Send) : Bool := match s.result with
  | some (.ok ()) => true
  | _ => false

/-- The number of bytes in the chunks the backend acknowledged. -/
def acknowledged (sends : List Send) : Nat :=
  ((sends.filter Send.acknowledged).flatMap Send.chunk).length

/-- The traffic of a write with so much of its message left, of which some was sent already or not. -/
structure WriteTraffic (link : Link) (sendEoi : Bool) (rest : List UInt8) (begun : Bool)
    (looks : List Look) (sends : List Send) : Prop where
  pads : ∀ i s, sends[i]? = some s →
    s.pad = if link.interface ∨ begun ∨ i ≠ 0 then none else some link.pad
  bounded : ∀ s ∈ sends, s.chunk.length ≤ writeChunk
  inOrder : sends.flatMap Send.chunk <+: rest
  eoi : ∀ before s after, sends = before ++ s :: after →
    (s.sendEoi = true ↔ sendEoi = true ∧ (before ++ [s]).flatMap Send.chunk = rest)
  -- nothing follows the end of the message, or a failure
  ends : ∀ before s after, sends = before ++ s :: after →
    (before ++ [s]).flatMap Send.chunk = rest ∨ s.acknowledged = false → after = []
  looked : sends.length ≤ (looks.takeWhile Look.goesOn).length
  tried : ∀ look later, looks = look :: later → look.goesOn = true → sends ≠ []

variable {link : Link} {sendEoi : Bool} {rest : List UInt8} {begun : Bool} {looks : List Look}
  {look : Look} {s : Send} {sends : List Send}

/-- The place of a send in a list that starts with another. -/
theorem cons_eq_append_cons {α : Type} {a b : α} {l before after : List α}
    (h : a :: l = before ++ b :: after) :
    (before = [] ∧ a = b ∧ l = after) ∨ ∃ before', before = a :: before' ∧ l = before' ++ b :: after := by
  cases before with
  | nil =>
    obtain ⟨rfl, rfl⟩ := List.cons.inj h
    exact .inl ⟨rfl, rfl, rfl⟩
  | cons first before =>
    obtain ⟨rfl, rfl⟩ := List.cons.inj h
    exact .inr ⟨before, rfl, rfl⟩

theorem writeTraffic_nil (h : ∀ look later, looks = look :: later → look.goesOn = false) :
    WriteTraffic link sendEoi rest begun looks [] where
  pads _ _ hs := by simp at hs
  bounded := nofun
  inOrder := List.nil_prefix
  eoi before s after h := by simp at h
  ends before s after h := by simp at h
  looked := Nat.zero_le _
  tried look later hlooks hgoesOn := by
    rw [h look later hlooks] at hgoesOn
    cases hgoesOn

/-- The last send: it ends the message, or was not acknowledged. -/
theorem writeTraffic_last (hgoesOn : look.goesOn = true)
    (hpad : s.pad = if link.interface ∨ begun then none else some link.pad)
    (hlen : s.chunk.length ≤ writeChunk) (heoi : s.sendEoi = (sendEoi && rest.isEmpty)) :
    WriteTraffic link sendEoi (s.chunk ++ rest) begun (look :: looks) [s] where
  pads i t ht := by
    cases i with
    | zero =>
      obtain rfl : s = t := by simpa using ht
      simpa using hpad
    | succ i => simp at ht
  bounded := by simpa using hlen
  inOrder := by simp
  eoi before t after h := by
    obtain ⟨rfl, rfl, rfl⟩ | ⟨before', rfl, h⟩ := cons_eq_append_cons h
    · simp [heoi]
    · simp at h
  ends before t after h _ := by
    obtain ⟨rfl, rfl, rfl⟩ | ⟨before', rfl, h⟩ := cons_eq_append_cons h
    · rfl
    · simp at h
  looked := by simp [hgoesOn]
  tried := by simp

/-- A send that is acknowledged and does not end the message, and what follows it. -/
theorem WriteTraffic.cons (h : WriteTraffic link sendEoi rest true looks sends)
    (hgoesOn : look.goesOn = true)
    (hpad : s.pad = if link.interface ∨ begun then none else some link.pad)
    (hlen : s.chunk.length ≤ writeChunk) (heoi : s.sendEoi = false) (hack : s.acknowledged = true)
    (hrest : rest ≠ []) : WriteTraffic link sendEoi (s.chunk ++ rest) begun (look :: looks) (s :: sends) where
  pads i t ht := by
    cases i with
    | zero =>
      obtain rfl : s = t := by simpa using ht
      simpa using hpad
    | succ i =>
      have hlater := h.pads i t (by simpa using ht)
      simpa using hlater
  bounded := List.forall_mem_cons.mpr ⟨hlen, h.bounded⟩
  inOrder := by
    rw [List.flatMap_cons]
    exact (List.prefix_append_right_inj _).mpr h.inOrder
  eoi before t after heq := by
    obtain ⟨rfl, rfl, rfl⟩ | ⟨before', rfl, hlater⟩ := cons_eq_append_cons heq
    · simp [heoi, hrest]
    · rw [h.eoi before' t after hlater]
      simp
  ends before t after heq hend := by
    obtain ⟨rfl, rfl, rfl⟩ | ⟨before', rfl, hlater⟩ := cons_eq_append_cons heq
    · rcases hend with hend | hend
      · exact absurd (by simpa using hend) hrest
      · rw [hack] at hend
        cases hend
    · refine h.ends before' t after hlater (hend.imp_left fun hend => ?_)
      simpa using hend
  looked := by simpa [hgoesOn] using h.looked
  tried := by simp

theorem acknowledged_cons (hack : s.acknowledged = true) :
    acknowledged (s :: sends) = s.chunk.length + acknowledged sends := by
  simp [acknowledged, hack]

theorem acknowledged_failed (hack : s.acknowledged = false) : acknowledged [s] = 0 := by
  simp [acknowledged, hack]

variable {C P E : Type} {backend : GpibBackend C P E} {inputs : PollInputs} {config : Config}
  {data : List UInt8} {written : Nat} {log : List (Transfer P)}

/-- Where the next chunk stops. -/
def stopAt (data : List UInt8) (written : Nat) : Nat := min (written + writeChunk) data.length

/-- The next chunk of a write that has got so far, as it is sent. -/
def nextSend (link : Link) (sendEoi : Bool) (data : List UInt8) (written : Nat)
    (result : Option (Except Text Unit)) : Send where
  pad := if link.interface ∨ written ≠ 0 then none else some link.pad
  chunk := (data.take (stopAt data written)).drop written
  sendEoi := sendEoi && decide (stopAt data written = data.length)
  result := result

theorem stopAt_le (data : List UInt8) (written : Nat) : stopAt data written ≤ data.length :=
  min_le_right _ _

theorem length_nextSend (link : Link) (sendEoi : Bool) (result : Option (Except Text Unit))
    (hwritten : written ≤ data.length) :
    written + (nextSend link sendEoi data written result).chunk.length = stopAt data written := by
  simp only [nextSend, stopAt, List.length_drop, List.length_take]
  omega

theorem drop_eq_nextSend_append (link : Link) (sendEoi : Bool) (result : Option (Except Text Unit))
    (hwritten : written ≤ data.length) : data.drop written =
      (nextSend link sendEoi data written result).chunk ++ data.drop (stopAt data written) := by
  have hle : written ≤ (data.take (stopAt data written)).length := by
    simp only [stopAt, List.length_take]
    omega
  rw [nextSend, ← List.drop_append_of_le_length hle, List.take_append_drop]

theorem drop_stopAt_isEmpty (data : List UInt8) (written : Nat) :
    (data.drop (stopAt data written)).isEmpty = decide (stopAt data written = data.length) := by
  have hle := stopAt_le data written
  rw [Bool.eq_iff_iff, List.isEmpty_iff, List.drop_eq_nil_iff, decide_eq_true_iff]
  omega

theorem acknowledged_nextSend (link : Link) (sendEoi : Bool) (hwritten : written ≤ data.length)
    (sends : List Send) :
    written + acknowledged (nextSend link sendEoi data written (some (.ok ())) :: sends) =
      stopAt data written + acknowledged sends := by
  have hfirst : acknowledged (nextSend link sendEoi data written (some (.ok ())) :: sends) = _ :=
    acknowledged_cons rfl
  rw [hfirst, ← length_nextSend link sendEoi (some (.ok ())) hwritten, Nat.add_assoc]

/-- The chunk is logged as it is asked for. -/
theorem sendChunk_logs :
    Interruptible.Ends (fun held => held.port.ctrl.2 = log)
      (sendChunk (logged backend) inputs link written ((data.take (stopAt data written)).drop written)
        (sendEoi && stopAt data written = data.length))
      (fun result held => held.port.ctrl.2 =
        log ++ [.send (nextSend link sendEoi data written (some result))])
      (fun held => held.port.ctrl.2 = log ++ [.send (nextSend link sendEoi data written none)]) := by
  unfold sendChunk
  refine request_logs (L := fun result now => now =
    log ++ [.send (nextSend link sendEoi data written result)]) fun port => ?_
  unfold nextSend
  by_cases hsticky : link.interface ∨ written ≠ 0
  · have hcond : (link.interface || decide (written ≠ 0)) = true := by simpa using hsticky
    rw [if_pos hcond]
    simp only [if_pos hsticky]
    rfl
  · have hcond : ¬(link.interface || decide (written ≠ 0)) = true := by simpa using hsticky
    rw [if_neg hcond]
    simp only [if_neg hsticky]
    rfl

theorem nextSend_last (hwritten : written ≤ data.length) (hgoesOn : look.goesOn = true)
    {result : Option (Except Text Unit)} :
    WriteTraffic link sendEoi (data.drop written) (decide (written ≠ 0)) (look :: looks)
      [nextSend link sendEoi data written result] := by
  have hlen := length_nextSend link sendEoi result hwritten
  rw [drop_eq_nextSend_append link sendEoi result hwritten]
  refine writeTraffic_last hgoesOn (by simp [nextSend]) ?_ (by rw [drop_stopAt_isEmpty]; rfl)
  unfold stopAt at hlen
  omega

theorem WriteTraffic.nextSend_cons (hwritten : written ≤ data.length) (hgoesOn : look.goesOn = true)
    (hmore : stopAt data written ≠ data.length)
    (h : WriteTraffic link sendEoi (data.drop (stopAt data written))
      (decide (stopAt data written ≠ 0)) looks sends) :
    WriteTraffic link sendEoi (data.drop written) (decide (written ≠ 0)) (look :: looks)
      (nextSend link sendEoi data written (some (.ok ())) :: sends) := by
  have hlen := length_nextSend link sendEoi (some (.ok ())) hwritten
  have hbegun : stopAt data written ≠ 0 := by
    unfold stopAt writeChunk at hmore ⊢
    omega
  have hrest : data.drop (stopAt data written) ≠ [] := by
    intro hnil
    have hempty := drop_stopAt_isEmpty data written
    rw [hnil] at hempty
    simp [hmore] at hempty
  rw [decide_eq_true hbegun] at h
  rw [drop_eq_nextSend_append link sendEoi (some (.ok ())) hwritten]
  refine h.cons hgoesOn (by simp [nextSend]) ?_ (by simp [nextSend, hmore]) rfl hrest
  unfold stopAt at hlen
  omega

/-- The traffic since the log was so long. -/
def Wrote (link : Link) (sendEoi : Bool) (data : List UInt8) (written : Nat) (looks : List Look)
    (log : List (Transfer P)) (N : List Send → Prop) (now : List (Transfer P)) : Prop :=
  ∃ sends, now = log ++ sends.map .send ∧
    WriteTraffic link sendEoi (data.drop written) (decide (written ≠ 0)) looks sends ∧ N sends

theorem writeLoop_traffic (hwritten : written ≤ data.length) :
    Interruptible.Ends (fun held => held.port.ctrl.2 = log)
      (writeLoop (logged backend) inputs link data sendEoi looks written)
      (fun result held => Wrote link sendEoi data written looks log
        (fun sends => result.2 = written + acknowledged sends) held.port.ctrl.2)
      (fun held => Wrote link sendEoi data written looks log (fun _ => True) held.port.ctrl.2) := by
  induction looks generalizing written log with
  | nil =>
    intro held hlog
    exact ⟨[], by simpa using hlog, writeTraffic_nil nofun, trivial⟩
  | cons look looks ih =>
    have hstopped : look.goesOn = false → ∀ held : Held (C × List (Transfer P)) P E,
        held.port.ctrl.2 = log → Wrote link sendEoi data written (look :: looks) log
          (fun sends => written = written + acknowledged sends) held.port.ctrl.2 := by
      intro hgoesOn held hlog
      refine ⟨[], by simpa using hlog, writeTraffic_nil ?_, rfl⟩
      rintro _ _ ⟨⟩
      exact hgoesOn
    unfold writeLoop
    split
    · rename_i haborted
      exact Interruptible.Ends.pure (hstopped (by simp [Look.goesOn, haborted]))
    split
    · rename_i hremaining
      exact Interruptible.Ends.pure (hstopped (by simp [Look.goesOn, hremaining]))
    rename_i haborted hremaining
    have hgoesOn : look.goesOn = true := by simp [Look.goesOn, haborted, hremaining]
    refine (setTimeout_logs (L := (· = log))).bind fun _ => ?_
    refine (sendChunk_logs.imp (fun _ h => h) (fun _ _ h => h) fun held hlog => ?_).bind fun sent => ?_
    · exact ⟨[_], hlog, nextSend_last hwritten hgoesOn, trivial⟩
    cases sent with
    | ok _ =>
      have hcount := acknowledged_nextSend link sendEoi hwritten
      change Interruptible.Ends _ (if stopAt data written = data.length then
        pure (ErrorCode.noError, stopAt data written) else _) _ _
      split
      · refine Interruptible.Ends.pure fun held hlog => ?_
        exact ⟨[_], hlog, nextSend_last hwritten hgoesOn, (hcount []).symm⟩
      · rename_i hmore
        refine (ih (stopAt_le data written)).imp (fun _ h => h) ?_ ?_
        · rintro result held ⟨sends, hlog, htraffic, hresult⟩
          refine ⟨_ :: sends, by rw [hlog]; simp, htraffic.nextSend_cons hwritten hgoesOn hmore, ?_⟩
          exact hresult.trans (hcount sends).symm
        · rintro held ⟨sends, hlog, htraffic, -⟩
          exact ⟨_ :: sends, by rw [hlog]; simp, htraffic.nextSend_cons hwritten hgoesOn hmore, trivial⟩
    | error e =>
      refine Interruptible.Ends.pure fun held hlog => ?_
      refine ⟨[_], hlog, nextSend_last hwritten hgoesOn, ?_⟩
      exact congrArg (written + ·) (acknowledged_failed rfl).symm

/-- The transfers of a `device_write`. -/
def deviceWriteLog (backend : GpibBackend C P E) (config : Config) (parms : DeviceWriteParms)
    (met : Circumstances) (port : Port C P E) : List (Transfer P) :=
  ((deviceWrite (logged backend) config parms met).exec ⟨withLog port [], []⟩).2.port.ctrl.2

/-- The transfers of a write are these: none if it is refused. -/
structure WriteAccount (parms : DeviceWriteParms) (met : Circumstances) (sends : List Send) : Prop where
  traffic : ∀ link, met.link = some link → met.access = .ok () →
    WriteTraffic link (parms.flags &&& opFlagEnd ≠ 0) parms.data false met.looks sends
  refused : met.link = none ∨ (∃ e, met.access = .error e) → sends = []

theorem writeAccount_refused {parms : DeviceWriteParms} {met : Circumstances}
    (h : ∀ link, met.link = some link → met.access ≠ .ok ()) : WriteAccount parms met [] where
  traffic link hlink haccess := absurd haccess (h link hlink)
  refused _ := rfl

theorem deviceWrite_account (backend : GpibBackend C P E) (config : Config)
    (parms : DeviceWriteParms) (met : Circumstances) :
    Interruptible.Ends (fun held => held.port.ctrl.2 = [])
      (deviceWrite (logged backend) config parms met)
      (fun resp held => ∃ sends, held.port.ctrl.2 = sends.map .send ∧ WriteAccount parms met sends ∧
        resp.size = UInt32.ofNat (acknowledged sends))
      (fun held => ∃ sends, held.port.ctrl.2 = sends.map .send ∧ WriteAccount parms met sends) := by
  unfold deviceWrite
  split
  · rename_i hnone
    refine Interruptible.Ends.pure fun _ hlog => ⟨[], hlog, writeAccount_refused ?_, rfl⟩
    intro link hlink
    rw [hnone] at hlink
    cases hlink
  rename_i link hlink
  split
  · rename_i e he
    refine Interruptible.Ends.pure fun _ hlog => ⟨[], hlog, writeAccount_refused ?_, rfl⟩
    intro _ _ haccess
    rw [he] at haccess
    cases haccess
  rename_i haccess
  have haccount : ∀ {sends}, WriteTraffic link (parms.flags &&& opFlagEnd ≠ 0) parms.data false
      met.looks sends → WriteAccount parms met sends := by
    intro sends htraffic
    refine ⟨fun other hother _ => ?_, ?_⟩
    · obtain rfl := Option.some.inj (hlink.symm.trans hother)
      exact htraffic
    · rintro (hnone | ⟨e, he⟩)
      · rw [hlink] at hnone
        cases hnone
      · rw [haccess] at he
        cases he
  refine ((writeLoop_traffic (Nat.zero_le _)).imp (fun _ h => h) (fun _ _ h => h) ?_).bind
    fun result => ?_
  · rintro held ⟨sends, hlog, htraffic, -⟩
    exact ⟨sends, hlog, haccount htraffic⟩
  refine setTimeout_logs.bind fun _ => Interruptible.Ends.pure ?_
  rintro held ⟨sends, hlog, htraffic, hcount⟩
  refine ⟨sends, hlog, haccount htraffic, ?_⟩
  rw [hcount, Nat.zero_add]

/-- Whatever the backend answers and whenever the deadline passes or an abort comes, the traffic of a
write is in order, and its count that of the chunks acknowledged. -/
theorem write_traffic (backend : GpibBackend C P E) (config : Config) (parms : DeviceWriteParms)
    (met : Circumstances) (port : Port C P E) :
    ∃ sends, deviceWriteLog backend config parms met port = sends.map .send ∧
      (∀ link, met.link = some link → met.access = .ok () →
        WriteTraffic link (parms.flags &&& opFlagEnd ≠ 0) parms.data false met.looks sends) ∧
      (met.link = none ∨ (∃ e, met.access = .error e) → sends = []) ∧
      ∀ resp, ((deviceWrite backend config parms met).exec { port }).1 = some (.ok resp) →
        resp.size = UInt32.ofNat (acknowledged sends) := by
  have hfollows : ((deviceWrite backend config parms met).exec { port }).1 =
      ((deviceWrite (logged backend) config parms met).exec ⟨withLog port [], []⟩).1 :=
    congrArg Prod.fst (follows_deviceWrite ⟨withLog port [], []⟩)
  have haccount := deviceWrite_account backend config parms met ⟨withLog port [], []⟩ rfl
  rw [hfollows, deviceWriteLog]
  match (deviceWrite (logged backend) config parms met).exec ⟨withLog port [], []⟩, haccount with
  | (some (.ok resp), held), ⟨sends, hlog, haccount, hsize⟩ =>
    refine ⟨sends, hlog, haccount.traffic, haccount.refused, ?_⟩
    rintro _ ⟨⟩
    exact hsize
  | (none, held), ⟨sends, hlog, haccount⟩ =>
    exact ⟨sends, hlog, haccount.traffic, haccount.refused, nofun⟩

/-- One byte with END, to an instrument on an 82357 that takes it. -/
def byteWriteParms : DeviceWriteParms where
  lid := 1
  ioTimeoutMs := 2000
  lockTimeoutMs := 0
  flags := opFlagEnd
  data := [0x2a]

def byteWriteMet : Circumstances :=
  { link := some ⟨false, 5⟩, looks := [{ remaining := 2000000000 }] }

def byteWritePort : Agilent.AgilentPort Unit :=
  Agilent.answered (Agilent.acceptsBytes ++ Agilent.acceptsBytes)

theorem write_traffic_byte : ∃ sends,
    deviceWriteLog (BackendKind.backend oneError .agilent82357) ⟨3000⟩ byteWriteParms byteWriteMet
      byteWritePort = sends.map .send ∧
    WriteTraffic ⟨false, 5⟩ true [0x2a] false byteWriteMet.looks sends ∧
    UInt32.ofNat (acknowledged sends) = 1 := by
  obtain ⟨sends, hlog, htraffic, -, hsize⟩ := write_traffic (BackendKind.backend oneError .agilent82357)
    ⟨3000⟩ byteWriteParms byteWriteMet byteWritePort
  exact ⟨sends, hlog, htraffic _ rfl rfl, (hsize ⟨0, 1⟩ (by decide +kernel)).symm⟩

end Ugpibd.Vxi11.BusSettings
