import Ugpibd.Backend.ErrorText
import Ugpibd.Library.Interruptible

/-! A backend's operations, with what they change and what they send. An operation that fails leaves
everything as it was when it failed, and so does one whose future is dropped where it waits. -/
namespace Ugpibd.Backend
open Library

/-- What an operation works on: the backend's fields and how the USB transfers it makes are answered.
The packets it has handed to the transport, newest first, are not part of the program. -/
structure Port (C P E : Type) where
  ctrl : C
  answers : List (Answer E) := []
  sent : List P := []
  deriving DecidableEq

/-- A condition on the backend's fields and what it has sent. -/
abbrev Condition (C P : Type) := C → List P → Prop

/-- The condition holds, whatever answers are still to come. -/
def Port.Meets {C P E : Type} (port : Port C P E) (I : Condition C P) : Prop := I port.ctrl port.sent

/-- An operation fails with a text; it is dropped when it waits for an answer there is not. -/
abbrev Operation (C P E α : Type) := Interruptible (Port C P E) Text α

/-- One error, for runs whose texts do not matter. -/
def oneError : UsbErrors Unit := ⟨fun _ => [], []⟩

namespace Operation

variable {C P E ε α β : Type}

/-- Run USB transfers, which change nothing of the backend. -/
def usb (text : ε → Text) (u : Usb E ε α) : Operation C P E α :=
  ExceptT.mk (OptionT.mk fun port => match u port.answers with
    | none => (none, port)
    | some (result, rest) => (some (result.mapError text), { port with answers := rest }))

/-- Hand a packet to the transport. -/
def send (packet : P) : Operation C P E Unit :=
  modify fun port => { port with sent := packet :: port.sent }

/-- The backend's fields. -/
def fields : Operation C P E C := do return (← get).ctrl

def update (f : C → C) : Operation C P E Unit := modify fun port => { port with ctrl := f port.ctrl }

def bail (text : Text) : Operation C P E α := throw text

def bailIf (b : Prop) [Decidable b] (text : Text) : Operation C P E Unit :=
  if b then bail text else pure ()

/-- The error gets a context, printed in front of it. -/
def context (p : Operation C P E α) (s : String) : Operation C P E α := p.adapt (Text.context s)

/-- The operation goes on with a value or fails with a text. -/
def ofExcept (text : ε → Text) : Except ε α → Operation C P E α
  | .ok a => pure a
  | .error e => throw (text e)

/-- The packets the operation sends, newest first. -/
def sentBy (p : Operation C P E α) (port : Port C P E) : List P :=
  (p.exec port).2.sent.take ((p.exec port).2.sent.length - port.sent.length)

/-- Started where `I` holds, the operation leaves `Q` when it returns and `J` when it fails or is
dropped. -/
abbrev Ends (I : Condition C P) (p : Operation C P E α) (Q : α → Condition C P) (J : Condition C P) :
    Prop := Interruptible.Ends (·.Meets I) p (fun a port => port.Meets (Q a)) (·.Meets J)

/-- `I` still holds, however the operation ends. -/
abbrev Keeps (I : Condition C P) (p : Operation C P E α) : Prop := Ends I p (fun _ => I) I

/-- The same for an operation that is not dropped. -/
abbrev Settles (I : Condition C P) (p : Operation C P E α) (Q : α → Condition C P)
    (J : Condition C P) : Prop :=
  Interruptible.Settles (·.Meets I) p (fun a port => port.Meets (Q a)) (·.Meets J)

/-- Sending one of these packets keeps the condition. -/
def Stable (A : P → Prop) (J : Condition C P) : Prop :=
  ∀ packet c l, A packet → J c l → J c (packet :: l)

variable {I I' J J' : Condition C P} {Q Q' : α → Condition C P} {p : Operation C P E α}

theorem Ends.weaken (h : Ends I p Q J) (hI : ∀ c l, I' c l → I c l) (hQ : ∀ a c l, Q a c l → Q' a c l)
    (hJ : ∀ c l, J c l → J' c l) : Ends I' p Q' J' :=
  h.imp (fun _ => hI _ _) (fun _ _ => hQ _ _ _) fun _ => hJ _ _

theorem Ends.weaken_pre (h : Ends I p Q J) (hI : ∀ c l, I' c l → I c l) : Ends I' p Q J :=
  h.weaken hI (fun _ _ _ => id) fun _ _ => id

theorem Ends.weaken_post (h : Ends I p Q J) (hQ : ∀ a c l, Q a c l → Q' a c l) : Ends I p Q' J :=
  h.weaken (fun _ _ => id) hQ fun _ _ => id

theorem Ends.weaken_fail (h : Ends I p Q J) (hJ : ∀ c l, J c l → J' c l) : Ends I p Q J' :=
  h.weaken (fun _ _ => id) (fun _ _ _ => id) hJ

theorem keeps_true : Keeps (fun _ _ => True) p :=
  fun _ _ => Interruptible.Leaves.of_state trivial

theorem exec_usb (text : ε → Text) (u : Usb E ε α) (port : Port C P E) :
    (usb text u).exec port = match u port.answers with
      | none => (none, port)
      | some (result, rest) => (some (result.mapError text), { port with answers := rest }) := rfl

theorem usb_keeps {text : ε → Text} {u : Usb E ε α} : Keeps I (usb text u : Operation C P E α) := by
  intro port hport
  rw [exec_usb]
  match u port.answers with
  | none => exact hport
  | some (.ok _, _) => exact hport
  | some (.error _, _) => exact hport

theorem send_ends {packet : P} (h : ∀ c l, I c l → I' c (packet :: l)) :
    Ends I (send packet : Operation C P E Unit) (fun _ => I') J := fun port => h port.ctrl port.sent

theorem update_ends {K : Condition C P} {f : C → C} (h : ∀ c l, I c l → K (f c) l) :
    Ends I (update f : Operation C P E Unit) (fun _ => K) J := fun port => h port.ctrl port.sent

/-- What follows an update goes on with what holds after it. -/
theorem update_bind {K : Condition C P} {f : C → C} {g : Unit → Operation C P E α}
    (hf : ∀ c l, I c l → K (f c) l) (hg : Ends K (g ()) Q J) : Ends I (update f >>= g) Q J :=
  (update_ends (I := I) hf).bind fun _ => hg

theorem bail_ends {text : Text} (h : ∀ c l, I c l → J c l) :
    Ends I (bail text : Operation C P E α) Q J := fun port => h port.ctrl port.sent

theorem bailIf_ends {b : Prop} [Decidable b] {text : Text} :
    Ends I (bailIf b text : Operation C P E Unit) (fun _ c l => ¬b ∧ I c l) I := by
  unfold bailIf
  split
  · exact fun _ hport => hport
  · exact fun _ hport => ⟨‹_›, hport⟩

theorem bailIf_keeps {b : Prop} [Decidable b] {text : Text} :
    Keeps I (bailIf b text : Operation C P E Unit) :=
  bailIf_ends.weaken_post fun _ _ _ => And.right

theorem pure_ends {a : α} (h : ∀ c l, I c l → Q a c l) :
    Ends I (pure a : Operation C P E α) Q J := fun port => h port.ctrl port.sent

theorem pure_keeps {a : α} : Ends I (pure a : Operation C P E α) (fun _ => I) J :=
  pure_ends fun _ _ => id

theorem fields_ends : Ends I (fields : Operation C P E C) (fun _ => I) J := fun _ hport => hport

/-- What looks at the fields goes on with them as they are. -/
theorem fields_bind {f : C → Operation C P E α}
    (h : ∀ c, Ends (fun c' l => c' = c ∧ I c' l) (f c) Q J) : Ends I (fields >>= f) Q J := by
  have hfields : Ends I (fields : Operation C P E C) (fun c c' l => c' = c ∧ I c' l) J :=
    fun _ hport => ⟨rfl, hport⟩
  exact hfields.bind h

/-- The same when it does not matter what they are. -/
theorem fields_bind_of_forall {f : C → Operation C P E α} (h : ∀ c, Ends I (f c) Q J) :
    Ends I (fields >>= f) Q J := fields_bind fun c port hport => h c port hport.2

/-- The same when the fields are known. -/
theorem fields_bind_of_eq {f : C → Operation C P E α} {c₀ : C} (hI : ∀ c l, I c l → c = c₀)
    (h : Ends I (f c₀) Q J) : Ends I (fields >>= f) Q J := by
  intro port hport
  have hexec : (fields >>= f).exec port = (f port.ctrl).exec port := rfl
  rw [hexec, hI _ _ hport]
  exact h port hport

theorem ofExcept_ends {text : ε → Text} {r : Except ε α} :
    Ends I (ofExcept text r : Operation C P E α) (fun a c l => r = .ok a ∧ I c l) I := by
  cases r with
  | ok _ => exact fun _ hport => ⟨rfl, hport⟩
  | error _ => exact fun _ hport => hport

theorem ofExcept_keeps {text : ε → Text} {r : Except ε α} :
    Keeps I (ofExcept text r : Operation C P E α) :=
  ofExcept_ends.weaken_post fun _ _ _ => And.right

/-- A transfer ends one way or the other. -/
theorem transfer_settles {text : ε → Text} :
    Settles I (usb text transfer : Operation C P E (Answer E)) (fun _ => I) J := by
  rintro ⟨ctrl, answers, sent⟩ hport hended
  cases answers with
  | nil => cases hended
  | cons answer rest => exact hport

theorem sentBy_eq {port : Port C P E} {new : List P} (h : (p.exec port).2.sent = new ++ port.sent) :
    sentBy p port = new := by
  simp [sentBy, h]

/-- What was sent since is so. -/
def Since (before : List P) (N : List P → Prop) : Condition C P := fun _ sent =>
  ∃ new, sent = new ++ before ∧ N new

/-- Only such packets were sent since. -/
def SentOnly (before : List P) (B : P → Prop) : Condition C P := fun _ sent =>
  ∃ new, sent = new ++ before ∧ ∀ packet ∈ new, B packet

theorem stable_since {A : P → Prop} {before : List P} {N : List P → Prop}
    (h : ∀ packet new, A packet → N new → N (packet :: new)) :
    Stable A (Since before N : Condition C P) := by
  rintro packet c l hpacket ⟨new, rfl, hnew⟩
  exact ⟨packet :: new, rfl, h packet new hpacket hnew⟩

theorem stable_sentOnly {A B : P → Prop} {before : List P} (h : ∀ packet, A packet → B packet) :
    Stable A (SentOnly before B : Condition C P) :=
  stable_since fun packet _ hpacket hnew => List.forall_mem_cons.mpr ⟨h packet hpacket, hnew⟩

/-- What only depends on a state that the packets leave as it is. -/
theorem stable_foldr {A : P → Prop} {X : Type} {take : X → P → X} {start : X}
    (hA : ∀ packet, A packet → ∀ x, take x packet = x) {Q : C → X → Prop} :
    Stable A (fun c sent => Q c (sent.foldr (fun packet x => take x packet) start)) := by
  intro packet c sent hpacket h
  rw [List.foldr_cons, hA packet hpacket]
  exact h

theorem sentOnly_start {B : P → Prop} {before : List P} (c : C) : SentOnly before B c before :=
  ⟨[], rfl, nofun⟩

theorem forall_sentBy {B : P → Prop} {port : Port C P E}
    (h : Ends (fun c l => c = port.ctrl ∧ l = port.sent) p (fun _ => SentOnly port.sent B)
      (SentOnly port.sent B)) : ∀ packet ∈ sentBy p port, B packet := by
  obtain ⟨new, hnew, hB⟩ := (h port ⟨rfl, rfl⟩).state
  rw [sentBy_eq hnew]
  exact hB

theorem context_ends {s : String} (h : Ends I p Q J) : Ends I (p.context s) Q J := h.adapt

end Operation

/-- A backend that is called: the calls that succeeded, newest first, and whether the last one did. -/
structure Session (C P E K : Type) where
  port : Port C P E
  done : List K := []
  succeeded : Bool := false
  deriving DecidableEq

namespace Session

variable {C P E K : Type}

/-- One call after another; each comes with the answers its transfers get. -/
def step (op : K → Operation C P E Unit) (s : Session C P E K) (call : K × List (Answer E)) :
    Option (Session C P E K) :=
  match (op call.1).exec { s.port with answers := call.2 } with
  | (some (.ok ()), port) => some { port, done := call.1 :: s.done, succeeded := true }
  | (_, port) => some { s with port, succeeded := false }

/-- What a call's rule says of the step it is. -/
theorem step_cases {op : K → Operation C P E Unit} {s s' : Session C P E K}
    {call : K × List (Answer E)} {I J Q : Condition C P} (hstep : step op s call = some s')
    (hop : Operation.Ends I (op call.1) (fun _ => Q) J) (hs : s.port.Meets I) :
    (s'.succeeded = true ∧ s'.done = call.1 :: s.done ∧ s'.port.Meets Q) ∨
      (s'.succeeded = false ∧ s'.done = s.done ∧ s'.port.Meets J) := by
  have hends := hop { s.port with answers := call.2 } hs
  unfold step at hstep
  generalize (op call.1).exec { s.port with answers := call.2 } = result at hstep hends
  match result, hends, hstep with
  | (some (.ok ()), port), hends, rfl => exact .inl ⟨rfl, rfl, hends⟩
  | (some (.error _), port), hends, rfl => exact .inr ⟨rfl, rfl, hends⟩
  | (none, port), hends, rfl => exact .inr ⟨rfl, rfl, hends⟩

/-- A call that returns has succeeded. -/
theorem succeeded_of_step {op : K → Operation C P E Unit} {s s' : Session C P E K}
    {call : K × List (Answer E)} (hstep : step op s call = some s')
    (hok : ((op call.1).exec { s.port with answers := call.2 }).1 = some (.ok ())) :
    s'.succeeded = true := by
  unfold step at hstep
  generalize (op call.1).exec { s.port with answers := call.2 } = result at hstep hok
  obtain ⟨result, port⟩ := result
  obtain rfl := hok
  cases hstep
  rfl

end Session
end Ugpibd.Backend
