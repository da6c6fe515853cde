import Ugpibd.Backend.UsbtmcOperations
import Ugpibd.Library.Runs

/-! Serial polls of an interface that has an interrupt endpoint. Answers to the polls come there, late
ones of polls that were given up among them, and so do the service requests, whose status byte is kept
for the next poll. Tags are used again after 126 polls. -/
namespace Ugpibd.Backend.Usbtmc.Polls
open Library

/-- What a packet of the interrupt endpoint is to the reader. -/
inductive Received
  | service (stb : UInt8)
  | tagged (tag stb : UInt8)
  | ignored
  deriving DecidableEq, Repr

def interruptReader : List UInt8 → Received
  | b1 :: b2 :: _ =>
    if b1 = 0x81 then .service b2 else if b1 > 0x81 then .tagged (b1 &&& 0x7f) b2 else .ignored
  | _ => .ignored

/-- Where a status byte comes from. The polls that went to the device are numbered, and so are the
service requests. -/
inductive Origin
  | poll (n : Nat)
  | service (k : Nat)
  deriving DecidableEq, Repr

def Origin.poll? : Origin → Option Nat
  | .poll n => some n
  | .service _ => none

def Origin.service? : Origin → Option Nat
  | .service k => some k
  | .poll _ => none

@[simp]
theorem Origin.poll?_eq_some {o : Origin} {n : Nat} : o.poll? = some n ↔ o = .poll n := by
  cases o <;> simp [poll?]

structure Notice where
  tag : UInt8
  stb : UInt8
  origin : Origin
  deriving DecidableEq, Repr

/-- What a poll has returned, with its number. -/
structure Result where
  poll : Nat
  stb : UInt8
  origin : Origin
  deriving DecidableEq, Repr

/-- A poll has made its request, or waits for the notification. -/
inductive Stage
  | requesting
  | waiting
  deriving DecidableEq, Repr

/-- The backend, the reader and the device. `owed` are the tags and numbers of the requests the device
has yet to answer; what it has sent is `answered` and `services`. Numbers, origins and what the polls have
returned are kept for the record. -/
structure State where
  statusTag : UInt8 := 1
  srqStatus : Option (UInt8 × Origin) := none
  statusBytes : List Notice := []
  stage : Option Stage := none
  polls : Nat := 0
  pipe : List (List UInt8 × Origin) := []
  owed : List (UInt8 × Nat) := []
  answered : List (Nat × UInt8) := []
  services : List UInt8 := []
  returned : List Result := []
  deriving DecidableEq, Repr

inductive Action
  | poll
  | reply (taken : Bool) (reply : Option (List UInt8))
  | receive
  | timeout
  | read
  | answer (stb : UInt8)
  | service (stb : UInt8)
  deriving DecidableEq, Repr

namespace State

def returns (s : State) (stb : UInt8) (origin : Origin) : State :=
  { s with stage := none, returned := s.returned ++ [⟨s.polls, stb, origin⟩] }

/-- A poll begins: the byte of a service request is handed over, or the device is asked. -/
def readStatusByteNative (s : State) : State :=
  match s.srqStatus with
  | some (stb, origin) => { s with srqStatus := none }.returns stb origin
  | none => { s with
      statusTag := nextStatusTag s.statusTag
      polls := s.polls + 1
      stage := some .requesting }

/-- The next notification in the queue. One with another tag is dropped. -/
def statusByteNotification (s : State) : Option State :=
  match s.statusBytes with
  | [] => none
  | notice :: rest =>
    let s := { s with statusBytes := rest }
    some (if notice.tag = s.statusTag then s.returns notice.stb notice.origin else s)

def received (s : State) (origin : Origin) : Received → State
  | .service stb => { s with srqStatus := some (stb, origin) }
  | .tagged tag stb => { s with statusBytes := s.statusBytes ++ [⟨tag, stb, origin⟩] }
  | .ignored => s

/-- A control transfer may fail with or without the device having `taken` the request. -/
def step (s : State) : Action → Option State
  | .poll => if s.stage = none then some s.readStatusByteNative else none
  | .reply taken reply =>
    if s.stage = some .requesting then
      let good := reply.any fun reply => reply[0]? = some statusSuccess ∧ reply[1]? = some s.statusTag
      some { s with
        owed := if taken then s.owed ++ [(s.statusTag, s.polls)] else s.owed
        stage := if good then some .waiting else none }
    else none
  | .receive => if s.stage = some .waiting then s.statusByteNotification else none
  | .timeout => if s.stage = some .waiting then some { s with stage := none } else none
  | .read => match s.pipe with
    | [] => none
    | (packet, origin) :: pipe => some ({ s with pipe }.received origin (interruptReader packet))
  | .answer stb => match s.owed with
    | [] => none
    | (tag, n) :: owed => some { s with
        owed
        answered := s.answered ++ [(n, stb)]
        pipe := s.pipe ++ [([0x80 ||| tag, stb], .poll n)] }
  | .service stb => some { s with
      services := s.services ++ [stb]
      pipe := s.pipe ++ [([0x81, stb], .service s.services.length)] }

/-- The polls whose answer has not come up. -/
def outstanding (s : State) : List Nat :=
  (s.statusBytes.map Notice.origin ++ s.pipe.map Prod.snd).filterMap Origin.poll? ++ s.owed.map Prod.snd

theorem mem_outstanding {s : State} {n : Nat} : n ∈ s.outstanding ↔
    (∃ x ∈ s.statusBytes, x.origin = .poll n) ∨ (∃ x ∈ s.pipe, x.2 = .poll n) ∨ ∃ x ∈ s.owed, x.2 = n := by
  simp [outstanding]

/-- The service requests in the order in which they were sent, but for those that a later one has
replaced before a poll came. -/
def requested (s : State) : List Nat :=
  (s.returned.map Result.origin ++ s.srqStatus.toList.map Prod.snd ++ s.pipe.map Prod.snd).filterMap
    Origin.service?

end State

/-- No answer is so late that its tag has come around again. -/
def timely (s : State) : Action → Prop
  | .poll => ∀ n ∈ s.outstanding, s.polls + 1 < n + 126
  | _ => True

/-- The tag of a poll. -/
def tagOf : Nat → UInt8
  | 0 => 1
  | n + 1 => nextStatusTag (tagOf n)

theorem tagOf_succ (n : Nat) : tagOf (n + 1) = UInt8.ofNat (2 + n % 126) := by
  have hnext : ∀ i < 126, nextStatusTag (UInt8.ofNat (2 + i)) = UInt8.ofNat (2 + (i + 1) % 126) := by
    decide
  induction n with
  | zero => rfl
  | succ n ih =>
    rw [tagOf, ih, hnext _ (Nat.mod_lt _ (by decide)), Nat.mod_add_mod]

/-- Tags differ as long as fewer than 126 polls are between. -/
theorem tagOf_inj {n m : Nat} (hn : 0 < n) (hle : n ≤ m) (hlt : m < n + 126)
    (h : tagOf n = tagOf m) : n = m := by
  obtain ⟨n, rfl⟩ := Nat.exists_eq_add_of_le' hn
  obtain ⟨m, rfl⟩ := Nat.exists_eq_add_of_le' (hn.trans_le hle)
  have hmod := congrArg UInt8.toNat h
  rw [tagOf_succ, tagOf_succ, UInt8.toNat_ofNat', UInt8.toNat_ofNat'] at hmod
  omega

theorem interruptReader_answer {n : Nat} (hn : 0 < n) (stb : UInt8) :
    interruptReader [0x80 ||| tagOf n, stb] = .tagged (tagOf n) stb := by
  have htags : ∀ i < 126, (0x80 ||| UInt8.ofNat (2 + i)) ≠ 0x81 ∧ (0x80 ||| UInt8.ofNat (2 + i)) > 0x81 ∧
      (0x80 ||| UInt8.ofNat (2 + i)) &&& 0x7f = UInt8.ofNat (2 + i) := by
    decide
  obtain ⟨n, rfl⟩ := Nat.exists_eq_add_of_le' hn
  obtain ⟨hne, hgt, htag⟩ := htags (n % 126) (Nat.mod_lt _ (by decide))
  rw [interruptReader, tagOf_succ, if_neg hne, if_pos hgt, htag]

/-- The device has sent the byte, for that poll or as that service request. -/
def State.Sent (s : State) (stb : UInt8) : Origin → Prop
  | .poll n => 0 < n ∧ (n, stb) ∈ s.answered
  | .service k => s.services[k]? = some stb

/-- A packet is an answer with its poll's tag, or a service request. -/
def Formed (packet : List UInt8) (stb : UInt8) : Origin → Prop
  | .poll n => packet = [0x80 ||| tagOf n, stb]
  | .service _ => packet = [0x81, stb]

structure Sound (s : State) : Prop where
  tag : s.statusTag = tagOf s.polls
  latch : ∀ x ∈ s.srqStatus, ∃ k, x.2 = .service k ∧ s.Sent x.1 x.2
  queue : ∀ x ∈ s.statusBytes, ∃ n, x.origin = .poll n ∧ x.tag = tagOf n ∧ s.Sent x.stb x.origin
  pipe : ∀ x ∈ s.pipe, ∃ stb, Formed x.1 stb x.2 ∧ s.Sent stb x.2
  owed : ∀ x ∈ s.owed, 0 < x.2 ∧ x.1 = tagOf x.2
  window : ∀ n ∈ s.outstanding, n ≤ s.polls ∧ s.polls < n + 126
  stage : s.stage ≠ none → 0 < s.polls
  order : s.requested.Pairwise (· < ·)
  below : ∀ k ∈ s.requested, k < s.services.length
  returned : ∀ r ∈ s.returned, s.Sent r.stb r.origin ∧ ∀ n, r.origin = .poll n → n = r.poll

variable {s s' : State} {stb : UInt8} {origin : Origin}

/-- What the device has sent stays sent. -/
theorem State.Sent.mono (h : s.Sent stb origin) (hanswered : s.answered <+: s'.answered)
    (hservices : s.services <+: s'.services) : s'.Sent stb origin := by
  cases origin with
  | poll n => exact ⟨h.1, hanswered.subset h.2⟩
  | service k =>
    obtain ⟨more, hmore⟩ := hservices
    have hlt := (List.getElem?_eq_some_iff.mp h).1
    rw [Sent, ← hmore, List.getElem?_append_left hlt]
    exact h

/-- A poll begins. -/
theorem Sound.poll (h : Sound s) (htimely : timely s .poll) : Sound s.readStatusByteNative := by
  unfold State.readStatusByteNative
  split
  · rename_i stb origin hlatch
    obtain ⟨k, rfl, hsent⟩ := h.latch _ hlatch
    have hrequested : State.requested ({ s with srqStatus := none }.returns stb (.service k)) =
        s.requested := by
      simp [State.requested, State.returns, hlatch]
    refine ⟨h.tag, (fun _ hx => by cases hx), h.queue, h.pipe, h.owed, h.window,
      fun hstage => absurd rfl hstage, hrequested ▸ h.order, hrequested ▸ h.below, ?_⟩
    rw [State.returns, List.forall_mem_append]
    exact ⟨h.returned, List.forall_mem_singleton.mpr ⟨hsent, fun n hn => by cases hn⟩⟩
  · refine ⟨congrArg nextStatusTag h.tag, h.latch, h.queue, h.pipe, h.owed, fun n hn => ?_,
      fun _ => Nat.succ_pos _, h.order, h.below, h.returned⟩
    exact ⟨Nat.le_succ_of_le (h.window n hn).1, htimely n hn⟩

/-- The control transfer ends. -/
theorem Sound.reply (h : Sound s) (hstage : s.stage ≠ none) (taken : Bool) (stage : Option Stage) :
    Sound { s with
      owed := if taken then s.owed ++ [(s.statusTag, s.polls)] else s.owed
      stage } := by
  have hpolls := h.stage hstage
  cases taken with
  | false => exact ⟨h.tag, h.latch, h.queue, h.pipe, h.owed, h.window, fun _ => hpolls, h.order, h.below,
      h.returned⟩
  | true =>
    refine ⟨h.tag, h.latch, h.queue, h.pipe, ?_, fun n hn => ?_, fun _ => hpolls, h.order, h.below,
      h.returned⟩
    · exact List.forall_mem_append.mpr ⟨h.owed, List.forall_mem_singleton.mpr ⟨hpolls, h.tag⟩⟩
    · have hn : n ∈ s.outstanding ∨ n = s.polls := by
        simpa [State.mem_outstanding, or_and_right, exists_or, or_assoc, eq_comm] using hn
      rcases hn with hn | rfl
      · exact h.window n hn
      · exact ⟨le_rfl, Nat.lt_add_of_pos_right (by decide)⟩

/-- A notification is taken from the queue. Its answer is this poll's if its tag is. -/
theorem Sound.receive (h : Sound s) (hreceive : s.statusByteNotification = some s') : Sound s' := by
  unfold State.statusByteNotification at hreceive
  split at hreceive
  · cases hreceive
  · rename_i notice rest hqueue
    obtain rfl := Option.some.inj hreceive
    have hall := h.queue
    rw [hqueue, List.forall_mem_cons] at hall
    obtain ⟨⟨n, horigin, htag, hsent⟩, hrest⟩ := hall
    have hmem : n ∈ s.outstanding := by simp [State.mem_outstanding, hqueue, horigin]
    have hwindow : ∀ m ∈ State.outstanding { s with statusBytes := rest }, m ∈ s.outstanding := by
      intro m hm
      rw [State.mem_outstanding] at hm ⊢
      exact hm.imp_left fun ⟨x, hx, hown⟩ => ⟨x, hqueue ▸ List.mem_cons_of_mem _ hx, hown⟩
    dsimp only
    split
    · rename_i hsame
      have hown : n = s.polls := by
        rw [horigin] at hsent
        obtain ⟨hle, hlt⟩ := h.window n hmem
        exact tagOf_inj hsent.1 hle hlt (htag.symm.trans (hsame.trans h.tag))
      have hrequested : State.requested
          ({ s with statusBytes := rest }.returns notice.stb notice.origin) = s.requested := by
        simp [State.requested, State.returns, horigin, Origin.service?, List.filterMap_cons]
      refine ⟨h.tag, h.latch, hrest, h.pipe, h.owed, fun m hm => h.window m (hwindow m hm),
        fun hstage => absurd rfl hstage, hrequested ▸ h.order, hrequested ▸ h.below, ?_⟩
      rw [State.returns, List.forall_mem_append]
      refine ⟨h.returned, List.forall_mem_singleton.mpr ⟨hsent, fun m hm => ?_⟩⟩
      rw [horigin] at hm
      exact (Origin.poll.inj hm).symm.trans hown
    · exact ⟨h.tag, h.latch, hrest, h.pipe, h.owed, fun m hm => h.window m (hwindow m hm), h.stage,
        h.order, h.below, h.returned⟩

/-- The reader takes a packet from the endpoint. -/
theorem Sound.read {packet : List UInt8} {pipe : List (List UInt8 × Origin)} (h : Sound s)
    (hpipe : s.pipe = (packet, origin) :: pipe) :
    Sound ({ s with pipe }.received origin (interruptReader packet)) := by
  have hall := h.pipe
  rw [hpipe, List.forall_mem_cons] at hall
  obtain ⟨⟨stb, hformed, hsent⟩, hrest⟩ := hall
  cases origin with
  | poll n =>
    have hpacket : interruptReader packet = .tagged (tagOf n) stb := by
      rw [show packet = _ from hformed]
      exact interruptReader_answer hsent.1 stb
    have hrequested : State.requested
        ({ s with pipe }.received (.poll n) (.tagged (tagOf n) stb)) = s.requested := by
      simp [State.requested, State.received, hpipe, Origin.service?, List.filterMap_cons]
    rw [hpacket]
    refine ⟨h.tag, h.latch, ?_, hrest, h.owed, fun m hm => h.window m ?_, h.stage, hrequested ▸ h.order,
      hrequested ▸ h.below, h.returned⟩
    · exact List.forall_mem_append.mpr ⟨h.queue, List.forall_mem_singleton.mpr ⟨n, rfl, rfl, hsent⟩⟩
    · simpa [State.mem_outstanding, State.received, hpipe, or_assoc] using hm
  | service k =>
    have hpacket : interruptReader packet = .service stb := by
      rw [show packet = _ from hformed]
      rfl
    -- The byte of an earlier request is lost if no poll has taken it.
    have hrequested : (State.requested
        ({ s with pipe }.received (.service k) (.service stb))).Sublist s.requested := by
      simp only [State.requested, State.received, hpipe]
      refine List.Sublist.filterMap _ ?_
      simp
    rw [hpacket]
    refine ⟨h.tag, fun x hx => ?_, h.queue, hrest, h.owed, fun m hm => h.window m ?_, h.stage,
      h.order.sublist hrequested, fun m hm => h.below m (hrequested.subset hm), h.returned⟩
    · obtain rfl := Option.some.inj hx
      exact ⟨k, rfl, hsent⟩
    · simpa [State.mem_outstanding, State.received, hpipe] using hm

/-- The device has sent more. -/
theorem Sound.grow {answered : List (Nat × UInt8)} {services : List UInt8} (h : Sound s)
    (hanswered : s.answered <+: answered) (hservices : s.services <+: services) :
    Sound { s with answered, services } := by
  have hmono : ∀ {b o}, s.Sent b o → State.Sent { s with answered, services } b o :=
    fun hsent => hsent.mono hanswered hservices
  refine ⟨h.tag, fun x hx => ?_, fun x hx => ?_, fun x hx => ?_, h.owed, h.window, h.stage, h.order,
    fun k hk => (h.below k hk).trans_le hservices.length_le,
    fun r hr => (h.returned r hr).imp_left hmono⟩
  · obtain ⟨k, hk, hlatched⟩ := h.latch x hx
    exact ⟨k, hk, hmono hlatched⟩
  · obtain ⟨n, hn, htag, hqueued⟩ := h.queue x hx
    exact ⟨n, hn, htag, hmono hqueued⟩
  · obtain ⟨b, hb, hpiped⟩ := h.pipe x hx
    exact ⟨b, hb, hmono hpiped⟩

theorem Sound.answer {tag : UInt8} {n : Nat} {owed : List (UInt8 × Nat)} (h : Sound s)
    (howed : s.owed = (tag, n) :: owed) (stb : UInt8) :
    Sound { s with
      owed
      answered := s.answered ++ [(n, stb)]
      pipe := s.pipe ++ [([0x80 ||| tag, stb], .poll n)] } := by
  have hall := h.owed
  rw [howed, List.forall_mem_cons] at hall
  obtain ⟨⟨hpos, htag⟩, hrest⟩ := hall
  have hgrow := h.grow (List.prefix_append _ [(n, stb)]) List.prefix_rfl
  refine ⟨h.tag, hgrow.latch, hgrow.queue, List.forall_mem_append.mpr ⟨hgrow.pipe, ?_⟩, hrest,
    fun m hm => h.window m ?_, h.stage, ?_, ?_, hgrow.returned⟩
  · exact List.forall_mem_singleton.mpr
      ⟨stb, by rw [Formed, ← htag], hpos, List.mem_append_right _ (List.mem_singleton_self _)⟩
  · simpa [State.mem_outstanding, howed, or_and_right, exists_or, or_assoc] using hm
  · simpa [State.requested, Origin.service?, List.filterMap_cons] using h.order
  · simpa [State.requested, Origin.service?, List.filterMap_cons] using h.below

theorem Sound.service (h : Sound s) (stb : UInt8) :
    Sound { s with
      services := s.services ++ [stb]
      pipe := s.pipe ++ [([0x81, stb], .service s.services.length)] } := by
  have hrequested : State.requested { s with
      pipe := s.pipe ++ [([0x81, stb], .service s.services.length)] } =
      s.requested ++ [s.services.length] := by
    simp [State.requested, Origin.service?]
  have hgrow := h.grow List.prefix_rfl (List.prefix_append _ [stb])
  refine ⟨h.tag, hgrow.latch, hgrow.queue, List.forall_mem_append.mpr ⟨hgrow.pipe, ?_⟩, h.owed,
    fun m hm => h.window m ?_, h.stage, ?_, ?_, hgrow.returned⟩
  · exact List.forall_mem_singleton.mpr ⟨stb, rfl, by simp [State.Sent]⟩
  · simpa [State.mem_outstanding] using hm
  · refine hrequested ▸ List.pairwise_append.mpr ⟨h.order, List.pairwise_singleton _ _, fun k hk => ?_⟩
    exact List.forall_mem_singleton.mpr (h.below k hk)
  · refine hrequested ▸ List.forall_mem_append.mpr ⟨hgrow.below, ?_⟩
    simp

theorem Sound.start : Sound {} :=
  ⟨rfl, by simp, by simp, by simp, by simp, by simp [State.outstanding], by simp,
    by simp [State.requested], by simp [State.requested], by simp⟩

theorem Sound.step {action : Action} (h : Sound s) (htimely : timely s action)
    (hstep : s.step action = some s') : Sound s' := by
  cases action with
  | poll =>
    obtain ⟨-, hstep⟩ := Option.ite_none_right_eq_some.mp hstep
    obtain rfl := Option.some.inj hstep
    exact h.poll htimely
  | reply taken reply =>
    obtain ⟨hstage, hstep⟩ := Option.ite_none_right_eq_some.mp hstep
    obtain rfl := Option.some.inj hstep
    exact h.reply (by simp [hstage]) taken _
  | receive => exact h.receive (Option.ite_none_right_eq_some.mp hstep).2
  | timeout =>
    obtain ⟨-, hstep⟩ := Option.ite_none_right_eq_some.mp hstep
    obtain rfl := Option.some.inj hstep
    exact ⟨h.tag, h.latch, h.queue, h.pipe, h.owed, h.window, fun hstage => absurd rfl hstage, h.order,
      h.below, h.returned⟩
  | read =>
    rw [State.step] at hstep
    split at hstep
    · cases hstep
    · rename_i hpipe
      obtain rfl := Option.some.inj hstep
      exact h.read hpipe
  | answer stb =>
    rw [State.step] at hstep
    split at hstep
    · cases hstep
    · rename_i howed
      obtain rfl := Option.some.inj hstep
      exact h.answer howed stb
  | service stb =>
    obtain rfl := Option.some.inj hstep
    exact h.service stb

instance : ∀ action, Decidable (timely s action)
  | .poll => inferInstanceAs (Decidable (∀ n ∈ s.outstanding, s.polls + 1 < n + 126))
  | .reply .. | .receive | .timeout | .read | .answer _ | .service _ => inferInstanceAs (Decidable True)

/-- A poll returns what the device has answered to this very poll, however late the answers to earlier
ones came, or the byte of a service request. No service request is handed over twice, or after a later
one. -/
theorem poll_returns_own_answer (h : Reach State.step timely {} s) :
    (∀ r ∈ s.returned, s.Sent r.stb r.origin ∧ ∀ n, r.origin = .poll n → n = r.poll) ∧
      ((s.returned.map Result.origin).filterMap Origin.service?).Pairwise (· < ·) := by
  have hsound : Sound s := h.invariant .start fun _ _ _ hs => hs.step
  refine ⟨hsound.returned, hsound.order.sublist (List.Sublist.filterMap _ ?_)⟩
  rw [List.append_assoc]
  exact List.sublist_append_left _ _

/-- The first poll is given up, and its answer comes during the second. Of two service requests
the later is handed over. -/
theorem late_answer_dropped : ∃ s, Reach State.step timely {} s ∧
    s.returned = [⟨2, 9, .poll 2⟩, ⟨2, 0x42, .service 1⟩] ∧
    (∀ r ∈ s.returned, s.Sent r.stb r.origin ∧ ∀ n, r.origin = .poll n → n = r.poll) := by
  obtain ⟨s, hs, hreturned⟩ := exists_reach_of_exec
    (fun (s : State) a => if timely s a then s.step a else none) {}
    (fun s => s.returned = [⟨2, 9, .poll 2⟩, ⟨2, 0x42, .service 1⟩])
    [.poll, .reply true none, .poll, .reply true (some [1, 3, 0]), .answer 5, .read, .receive, .answer 9,
      .service 0x41, .service 0x42, .read, .receive, .read, .read, .poll] (by decide)
  have hs := Reach.of_guarded hs
  exact ⟨s, hs, of_decide_eq_true hreturned, (poll_returns_own_answer hs).1⟩

end Ugpibd.Backend.Usbtmc.Polls
