import Ugpibd.Hislip.Execution
import Ugpibd.Library.Literals

/-! Which commands are taken for queries. -/
namespace Ugpibd.Hislip
open Library

/-- The two kinds of quotes of a SCPI string literal. -/
def IsQuote (b : UInt8) : Prop := b = 0x22 ∨ b = 0x27

instance : DecidablePred IsQuote := fun b => inferInstanceAs (Decidable (b = 0x22 ∨ b = 0x27))

def questionMark : UInt8 := 0x3f

theorem queryHintFrom_none_cons (b : UInt8) (cmd : List UInt8) :
    queryHintFrom none (b :: cmd) =
      if IsQuote b then queryHintFrom (some b) cmd
      else if b = questionMark then true else queryHintFrom none cmd := rfl

theorem queryHintFrom_eq (quote : Option UInt8) (cmd : List UInt8) :
    queryHintFrom quote cmd = decide (questionMark ∈ scanOutside IsQuote quote cmd) := by
  induction cmd generalizing quote with
  | nil => cases quote <;> rfl
  | cons b cmd ih =>
    cases quote with
    | some quote => exact ih _
    | none =>
      rw [queryHintFrom_none_cons, scanOutside]
      by_cases hquote : IsQuote b
      · rw [if_pos hquote, if_pos hquote]
        exact ih _
      · rw [if_neg hquote, if_neg hquote]
        by_cases hmark : b = questionMark
        · subst hmark
          simp [questionMark]
        · rw [if_neg hmark, ih none]
          simp [Ne.symm hmark]

/-- A command is taken for a query exactly when there is a question mark outside its string literals;
where the literals are is never in doubt. -/
theorem queryHint_iff (cmd : List UInt8) :
    (∃! outside, OutsideLiterals IsQuote cmd outside) ∧
      (queryHint cmd = true ↔
        ∃ outside, OutsideLiterals IsQuote cmd outside ∧ questionMark ∈ outside) := by
  simp only [outsideLiterals_iff, queryHint, queryHintFrom_eq, decide_eq_true_eq]
  exact ⟨⟨_, rfl, fun _ h => h.symm⟩, by simp⟩

example : queryHint "DISP:TEXT 'it''s?'".toUTF8.toList = false := by decide +kernel

end Ugpibd.Hislip
