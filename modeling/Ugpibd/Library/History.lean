import Mathlib.Data.List.Basic

/-! Histories, newest event first. A rule says what an event may be after what was there before
it, and a history keeps the rule if every one of its events did. -/
namespace Ugpibd.Library

variable {ε : Type*} {rule : ε → List ε → Prop} {e : ε} {newer older : List ε}

/-- Every event was right after the ones before it. -/
def EachEvent (rule : ε → List ε → Prop) : List ε → Prop
  | [] => True
  | e :: older => rule e older ∧ EachEvent rule older

instance EachEvent.decidable [∀ e older, Decidable (rule e older)] :
    ∀ history, Decidable (EachEvent rule history)
  | [] => .isTrue trivial
  | e :: older =>
    have := decidable older
    inferInstanceAs (Decidable (rule e older ∧ EachEvent rule older))

theorem EachEvent.cons (h : EachEvent rule older) (he : rule e older) :
    EachEvent rule (e :: older) := ⟨he, h⟩

theorem EachEvent.at_event (h : EachEvent rule (newer ++ e :: older)) : rule e older := by
  induction newer with
  | nil => exact h.1
  | cons _ newer ih => exact ih h.2

end Ugpibd.Library
