import Mathlib.Logic.Basic

/-! Programs over a state that return, fail, or are dropped where they wait. However one ends, the state
is left as it was then, so a rule has a postcondition for a program that returned and one for the two
other ways out. Rules of a second kind say nothing of programs that are dropped: a program that goes on
after a failure has done all its steps when it ends by itself. -/
namespace Ugpibd.Library

/-- A program over a state; one that is dropped has no result. -/
abbrev Interruptible (σ ε α : Type) := ExceptT ε (OptionT (StateM σ)) α

namespace Interruptible

variable {σ ε δ α β : Type}

def exec (p : Interruptible σ ε α) (s : σ) : Option (Except ε α) × σ := StateT.run p.run.run s

def dropped : Interruptible σ ε α := ExceptT.lift OptionT.fail

/-- The program's result, whichever it is; a failure is not passed on. -/
def attempt (p : Interruptible σ ε α) : Interruptible σ ε (Except ε α) := ExceptT.lift p.run

/-- `Q` holds if the program returned, `R` if it did not. -/
def Leaves (Q : α → σ → Prop) (R : σ → Prop) : Option (Except ε α) × σ → Prop
  | (some (.ok a), s) => Q a s
  | (some (.error _), s) => R s
  | (none, s) => R s

/-- Started where `P` holds, the program leaves `Q` or `R`. -/
def Ends (P : σ → Prop) (p : Interruptible σ ε α) (Q : α → σ → Prop) (R : σ → Prop) : Prop :=
  ∀ s, P s → Leaves Q R (p.exec s)

/-- `P` still holds, however the program ends. -/
abbrev Keeps (P : σ → Prop) (p : Interruptible σ ε α) : Prop := Ends P p (fun _ => P) P

/-- The same for a program that was not dropped. -/
def Settles (P : σ → Prop) (p : Interruptible σ ε α) (Q : α → σ → Prop) (R : σ → Prop) : Prop :=
  ∀ s, P s → (p.exec s).1.isSome → Leaves Q R (p.exec s)

variable {P P' R R' : σ → Prop} {Q Q' : α → σ → Prop} {p : Interruptible σ ε α} {s : σ}

theorem Leaves.imp {o : Option (Except ε α) × σ} (h : Leaves Q R o) (hQ : ∀ a s, Q a s → Q' a s)
    (hR : ∀ s, R s → R' s) : Leaves Q' R' o :=
  match o, h with
  | (some (.ok a), s), h => hQ a s h
  | (some (.error _), s), h => hR s h
  | (none, s), h => hR s h

/-- What is left however the program ended. -/
theorem Leaves.state {o : Option (Except ε α) × σ} (h : Leaves (fun _ => R) R o) : R o.2 :=
  match o, h with
  | (some (.ok _), _), h => h
  | (some (.error _), _), h => h
  | (none, _), h => h

theorem Leaves.of_state {o : Option (Except ε α) × σ} (h : R o.2) : Leaves (fun _ => R) R o :=
  match o, h with
  | (some (.ok _), _), h => h
  | (some (.error _), _), h => h
  | (none, _), h => h

theorem Leaves.returned {o : Option (Except ε α) × σ} {a : α} (h : Leaves Q R o)
    (ho : o.1 = some (.ok a)) : Q a o.2 := by
  obtain ⟨_, s⟩ := o
  obtain rfl := ho
  exact h

theorem Keeps.exec (h : Keeps P p) (hs : P s) : P (p.exec s).2 := (h s hs).state

theorem exec_bind (p : Interruptible σ ε α) (f : α → Interruptible σ ε β) (s : σ) :
    (p >>= f).exec s = match p.exec s with
      | (some (.ok a), s') => (f a).exec s'
      | (some (.error e), s') => (some (.error e), s')
      | (none, s') => (none, s') := by
  simp only [exec, ExceptT.run_bind, OptionT.run_bind, StateT.run_bind, Option.elimM]
  generalize StateT.run p.run.run s = result
  match result with
  | (some (.ok _), _) => rfl
  | (some (.error _), _) => rfl
  | (none, _) => rfl

theorem exec_adapt (f : ε → δ) (p : Interruptible σ ε α) (s : σ) :
    exec (p.adapt f) s = ((p.exec s).1.map (·.mapError f), (p.exec s).2) := by
  change exec (ExceptT.mk (Except.mapError f <$> p.run) : Interruptible σ δ α) s = _
  simp only [exec, ExceptT.run_mk, OptionT.run_map, StateT.run_map]
  rfl

theorem exec_attempt (p : Interruptible σ ε α) (s : σ) :
    (attempt p).exec s = ((p.exec s).1.map .ok, (p.exec s).2) := by
  simp only [exec, attempt, ExceptT.run_lift, OptionT.run_map, StateT.run_map]
  rfl

namespace Ends

theorem imp (h : Ends P p Q R) (hP : ∀ s, P' s → P s) (hQ : ∀ a s, Q a s → Q' a s)
    (hR : ∀ s, R s → R' s) : Ends P' p Q' R' := fun s hs => (h s (hP s hs)).imp hQ hR

theorem pure {a : α} (h : ∀ s, P s → Q a s) : Ends P (pure a : Interruptible σ ε α) Q R := h

theorem throw {e : ε} (h : ∀ s, P s → R s) : Ends P (throw e : Interruptible σ ε α) Q R := h

theorem modify {f : σ → σ} {Q : Unit → σ → Prop} (h : ∀ s, P s → Q () (f s)) :
    Ends P (modify f : Interruptible σ ε Unit) Q R := h

theorem bind {f : α → Interruptible σ ε β} {Q' : β → σ → Prop} (hp : Ends P p Q R)
    (hf : ∀ a, Ends (Q a) (f a) Q' R) : Ends P (p >>= f) Q' R := by
  intro s hs
  have hpost := hp s hs
  rw [exec_bind]
  match p.exec s, hpost with
  | (some (.ok a), s'), hpost => exact hf a s' hpost
  | (some (.error _), _), hpost => exact hpost
  | (none, _), hpost => exact hpost

/-- What only computes with the result leaves the state as it is. -/
theorem then_pure {Q : σ → Prop} {f : α → β} (h : Ends P p (fun _ => Q) R) :
    Ends P (p >>= fun a => Pure.pure (f a)) (fun _ => Q) R := h.bind fun _ => .pure fun _ => id

theorem adapt {f : ε → δ} (h : Ends P p Q R) : Ends P (p.adapt f) Q R := by
  intro s hs
  have hpost := h s hs
  rw [exec_adapt]
  match p.exec s, hpost with
  | (some (.ok _), _), hpost => exact hpost
  | (some (.error _), _), hpost => exact hpost
  | (none, _), hpost => exact hpost

theorem attempt (h : Ends P p Q R) : Ends P (attempt p) (fun
    | .ok a => Q a
    | .error _ => R) R := by
  intro s hs
  have hpost := h s hs
  rw [exec_attempt]
  match p.exec s, hpost with
  | (some (.ok _), _), hpost => exact hpost
  | (some (.error _), _), hpost => exact hpost
  | (none, _), hpost => exact hpost

theorem settles (h : Ends P p Q R) : Settles P p Q R := fun s hs _ => h s hs

end Ends

namespace Settles

theorem bind {f : α → Interruptible σ ε β} {Q' : β → σ → Prop} (hp : Settles P p Q R)
    (hf : ∀ a, Settles (Q a) (f a) Q' R) : Settles P (p >>= f) Q' R := by
  intro s hs hended
  have hpost := hp s hs
  rw [exec_bind] at hended ⊢
  match p.exec s, hpost, hended with
  | (some (.ok a), s'), hpost, hended => exact hf a s' (hpost rfl) hended
  | (some (.error _), _), hpost, _ => exact hpost rfl

/-- What is attempted does not fail, so nothing is asked of a failure. -/
theorem attempt (h : Settles P p (fun _ => R) R) : Settles P (attempt p) (fun _ => R) R' := by
  intro s hs hended
  have hpost := h s hs
  rw [exec_attempt] at hended ⊢
  match p.exec s, hpost, hended with
  | (some (.ok _), _), hpost, _ => exact hpost rfl
  | (some (.error _), _), hpost, _ => exact hpost rfl

end Settles

theorem Keeps.attempt (h : Keeps P p) : Keeps P (attempt p) := by
  refine (Ends.attempt h).imp (fun _ => id) ?_ fun _ => id
  rintro (_ | _) s hs <;> exact hs

end Interruptible
end Ugpibd.Library
