import Ugpibd.Hislip.SessionCapacity

/-! Clients that connect. The id their synchronous channel is given is what binds the asynchronous one,
and by then it may be the id of another session. -/
namespace Ugpibd.Hislip
open Library

/-- How far a client's `connect` has come: `n` is the session its synchronous channel has opened, `m` the
one its asynchronous channel was bound to. -/
inductive Connect
  | starting (subaddress : String)
  | opened (n : Nat)
  | responded (n : Nat) (sessionId : UInt16)
  | bound (n m : Nat)
  | failed
  deriving DecidableEq, Repr

structure Network where
  server : Server
  clients : Nat → Connect

inductive NetworkAction
  | connect (i : Nat) (written : Bool)
  | server (a : Action)

namespace Network

def put (s : Network) (server : Server) (i : Nat) (phase : Connect) : Network :=
  ⟨server, Function.update s.clients i phase⟩

/-- A client gets an answer, or the server does anything else. -/
def step (s : Network) : NetworkAction → Option Network
  | .connect i written => match s.clients i with
    | .starting subaddress => (s.server.step (.initSync subaddress)).map fun server =>
        s.put server i
          (if s.server.created < server.created then .opened s.server.created else .failed)
    | .opened n => (s.server.step (.initializeResponse n written)).map fun server =>
        s.put server i (match written, server.sessions n with
          | true, some session => .responded n session.id
          | _, _ => .failed)
    | .responded n sessionId => (s.server.step (.initAsync sessionId)).map fun server =>
        let free := s.server.entries[sessionId]?.filter fun m =>
          (s.server.sessions m).any (·.async = .unbound)
        s.put server i (free.elim .failed (.bound n))
    | .bound .. | .failed => none
  | .server a => (s.server.step a).map fun server => { s with server }

end Network

namespace Server
variable {s t : Server} {a : Action} {n : Nat} {session : Session} {phase : Connect}

/-- The synchronous channel of the session is no longer served. -/
def Ended (s : Server) (n : Nat) : Prop := ∃ session, s.sessions n = some session ∧ session.live = false

/-- What a client has been told holds as long as its synchronous channel is served. -/
def Follows (s : Server) : Connect → Prop
  | .starting _ | .opened _ | .failed => True
  | .responded n sessionId => s.Ended n ∨ s.entries[sessionId]? = some n
  | .bound n m => s.Ended n ∨ m = n

theorem Follows.step (h : s.Follows phase) (htab : s.Tabled) (hstep : s.step a = some t) :
    t.Follows phase := by
  cases phase with
  | starting | opened | failed => trivial
  | responded n sessionId =>
    rcases h with hended | hentry
    · exact .inl (ended_step htab hstep hended)
    by_cases hremove : a = .remove sessionId
    · -- an entry is removed after its session has ended
      subst hremove
      have hmem : sessionId ∈ s.removals := by
        by_contra hmem
        simp [Server.step, hmem] at hstep
      obtain ⟨m, session, hm, hended⟩ := htab.removal_ended sessionId hmem
      obtain rfl := Option.some.inj (hentry.symm.trans hm)
      exact .inl (ended_step htab hstep ⟨session, hended⟩)
    · exact .inr (entry_step hstep hentry hremove)
  | bound n m => exact h.imp_left (ended_step htab hstep)

/-- The id in an answer is the session's entry. -/
theorem answered_entry (htab : s.Tabled) (hstep : s.step (.initializeResponse n true) = some t)
    (hn : t.sessions n = some session) : t.entries[session.id]? = some n := by
  refine (step_tabled htab hstep).live_entry n session hn ?_
  simp only [step] at hstep
  split at hstep
  · obtain ⟨-, hstep⟩ := Option.ite_none_right_eq_some.mp hstep
    obtain rfl := Option.some.inj hstep
    obtain rfl := Option.some.inj ((put_self ..).symm.trans hn)
    rfl
  · cases hstep

end Server

namespace Network
variable {s s' : Network} {server : Server} {a : Action} {i : Nat} {phase : Connect}

structure Paired (s : Network) : Prop where
  tabled : s.server.Tabled
  follows : ∀ i, s.server.Follows (s.clients i)

theorem Paired.keep (h : s.Paired) (hstep : s.server.step a = some server) :
    Paired { s with server } :=
  ⟨Server.step_tabled h.tabled hstep, fun i => (h.follows i).step h.tabled hstep⟩

/-- A client moves on with a step of the server. -/
theorem Paired.put (h : s.Paired) (hstep : s.server.step a = some server)
    (hphase : server.Follows phase) : (s.put server i phase).Paired := by
  refine ⟨(h.keep hstep).tabled, fun j => ?_⟩
  by_cases hji : j = i
  · simpa [Network.put, hji] using hphase
  · simpa [Network.put, hji] using (h.keep hstep).follows j

theorem Paired.step {action : NetworkAction} (h : s.Paired) (hstep : s.step action = some s') :
    s'.Paired := by
  cases action with
  | connect i written =>
    simp only [Network.step] at hstep
    split at hstep
    · obtain ⟨server, hserver, rfl⟩ := Option.map_eq_some_iff.mp hstep
      split_ifs with hlt
      · exact h.put hserver trivial
      · exact h.put hserver trivial
    · obtain ⟨server, hserver, rfl⟩ := Option.map_eq_some_iff.mp hstep
      split
      · rename_i session hn
        exact h.put hserver (.inr (Server.answered_entry h.tabled hserver hn))
      · exact h.put hserver trivial
    · rename_i n sessionId hi
      obtain ⟨server, hserver, rfl⟩ := Option.map_eq_some_iff.mp hstep
      have htold : s.server.Follows (.responded n sessionId) := hi ▸ h.follows i
      cases hfree : Option.filter _ _ with
      | none => exact h.put hserver trivial
      | some m =>
        have hbound : s.server.Follows (.bound n m) := htold.imp_right fun hentry =>
          Option.some.inj ((Option.filter_eq_some_iff.mp hfree).1.symm.trans hentry)
        exact h.put hserver (hbound.step h.tabled hserver)
    · cases hstep
    · cases hstep
  | server a =>
    obtain ⟨server, hserver, rfl⟩ := Option.map_eq_some_iff.mp hstep
    exact h.keep hserver

/-- However clients connect and go and ids are used again: the asynchronous channel of a client that is
connected belongs to the session its synchronous one has opened as long as that one is served, and nobody
else is served under its id. -/
theorem connected_client_has_own_session {maxSessions : Nat} {subaddress : Nat → String}
    (h : Reach step anyStep ⟨{ maxSessions }, fun i => .starting (subaddress i)⟩ s) {n m : Nat}
    {session : Session} (hi : s.clients i = .bound n m) (hn : s.server.sessions n = some session)
    (hserved : session.live = true) :
    m = n ∧ ∀ k other, s.server.sessions k = some other → other.live = true →
      other.id = session.id → k = m := by
  have hpaired : s.Paired := h.invariant ⟨Server.tabled_default _, fun _ => trivial⟩
    fun _ _ _ hs _ => hs.step
  have hfollows : s.server.Follows (.bound n m) := hi ▸ hpaired.follows i
  obtain rfl : m = n := by
    refine hfollows.resolve_left fun ⟨other, hother, hended⟩ => ?_
    rw [Option.some.inj (hn.symm.trans hother), hended] at hserved
    cases hserved
  exact ⟨rfl, fun k other hk hlive hid => hpaired.tabled.live_unique hk hlive hn hserved hid⟩

/-- Two clients that connect at the same time. -/
theorem connecting_clients_kept_apart : ∃ s session,
    Reach step anyStep ⟨{ maxSessions := 8 }, fun _ => .starting "hislip0"⟩ s ∧
    s.clients 0 = .bound 0 0 ∧ s.clients 1 = .bound 1 1 ∧ s.server.sessions 1 = some session ∧
    ∀ k other, s.server.sessions k = some other → other.live = true → other.id = session.id → k = 1 := by
  obtain ⟨s, hs, htest⟩ := exists_reach_of_exec step
    ⟨{ maxSessions := 8 }, fun _ => .starting "hislip0"⟩
    (fun s => s.clients 0 = .bound 0 0 ∧ s.clients 1 = .bound 1 1 ∧
      s.server.sessions 1 = some ⟨2, "hislip0", .serving, .serving⟩)
    [.connect 0 true, .connect 1 true, .connect 1 true, .connect 0 true, .connect 1 true,
      .connect 0 true] (by decide +kernel)
  obtain ⟨h₀, h₁, hn⟩ := of_decide_eq_true htest
  exact ⟨s, _, hs, h₀, h₁, hn, (connected_client_has_own_session hs h₁ hn rfl).2⟩

end Network
end Ugpibd.Hislip
