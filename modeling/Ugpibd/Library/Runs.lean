import Mathlib.Logic.Relation

/-! Runs of a partial step function. A guard restricts the steps a run may take,
so that a property of every guarded run is two goals: the start and one step. -/
namespace Ugpibd.Library

variable {σ α : Type*}

/-- States reached from a start by steps that all meet the guard. -/
inductive Reach (step : σ → α → Option σ) (guard : σ → α → Prop) (start : σ) : σ → Prop
  | refl : Reach step guard start start
  | tail {s t : σ} {a : α} :
      Reach step guard start s → guard s a → step s a = some t → Reach step guard start t

/-- The guard of a run whose steps are not restricted. -/
def anyStep (_ : σ) (_ : α) : Prop := True

variable {step : σ → α → Option σ} {guard guard' : σ → α → Prop} {start s t : σ}

/-- The induction rule for runs: what the start has and every guarded step keeps,
every reached state has. -/
theorem Reach.invariant {P : σ → Prop} (h : Reach step guard start s) (hstart : P start)
    (hstep : ∀ s a t, P s → guard s a → step s a = some t → P t) : P s := by
  induction h with
  | refl => exact hstart
  | tail _ hg hs ih => exact hstep _ _ _ ih hg hs

theorem Reach.trans (h : Reach step guard start s) (h' : Reach step guard s t) :
    Reach step guard start t := by
  induction h' with
  | refl => exact h
  | tail _ hg hs ih => exact ih.tail hg hs

theorem Reach.mono (h : Reach step guard start s) (himp : ∀ s a, guard s a → guard' s a) :
    Reach step guard' start s := by
  induction h with
  | refl => exact .refl
  | tail _ hg hs ih => exact ih.tail (himp _ _ hg) hs

/-- A step that first tests the guard takes only guarded steps. -/
theorem Reach.of_guarded [∀ s a, Decidable (guard s a)]
    (h : Reach (fun s a => if guard s a then step s a else none) anyStep start s) :
    Reach step guard start s := by
  induction h with
  | refl => exact .refl
  | tail _ _ hs ih =>
    obtain ⟨hg, hs⟩ := Option.ite_none_right_eq_some.mp hs
    exact ih.tail hg hs

/-- Execute a list of actions in order. -/
def exec (step : σ → α → Option σ) : σ → List α → Option σ
  | s, [] => some s
  | s, a :: as => (step s a).bind (exec step · as)

theorem Reach.of_exec {l : List α} (h : exec step s l = some t) : Reach step anyStep s t := by
  induction l generalizing s with
  | nil =>
    obtain rfl : s = t := by simpa [exec] using h
    exact .refl
  | cons a l ih =>
    obtain ⟨u, hu, h⟩ := Option.bind_eq_some_iff.mp h
    exact (Reach.refl.tail trivial hu).trans (ih h)

/-- A list of actions whose last state passes a test reaches a state with that test. -/
theorem exists_reach_of_exec (step : σ → α → Option σ) (s : σ) (p : σ → Bool) (l : List α)
    (h : (exec step s l).any p = true) : ∃ t, Reach step anyStep s t ∧ p t = true := by
  cases he : exec step s l with
  | none => simp [he] at h
  | some t => exact ⟨t, .of_exec he, by simpa [he] using h⟩

end Ugpibd.Library
