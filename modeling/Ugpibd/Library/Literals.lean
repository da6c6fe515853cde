import Mathlib.Data.List.Basic

/-! String literals: a text between two quotes of one kind, in which the quote itself is written twice.
A scan that leaves the literal at every quote and enters it again at the next one need not know of the
doubling. -/
namespace Ugpibd.Library

/-- What can stand in a literal: other symbols, and the quote doubled. -/
inductive LiteralBody {α : Type*} (q : α) : List α → Prop
  | nil : LiteralBody q []
  | other {a : α} {body : List α} : a ≠ q → LiteralBody q body → LiteralBody q (a :: body)
  | doubled {body : List α} : LiteralBody q body → LiteralBody q (q :: q :: body)

/-- The symbols of a text that are outside its literals. A literal ends at a quote that no second one
follows, or with the text. -/
inductive OutsideLiterals {α : Type*} (isQuote : α → Prop) : List α → List α → Prop
  | nil : OutsideLiterals isQuote [] []
  | plain {a : α} {text outside : List α} : ¬isQuote a → OutsideLiterals isQuote text outside →
      OutsideLiterals isQuote (a :: text) (a :: outside)
  | literal {q : α} {body text outside : List α} : isQuote q → LiteralBody q body →
      text.head? ≠ some q → OutsideLiterals isQuote text outside →
      OutsideLiterals isQuote (q :: (body ++ q :: text)) outside
  | unterminated {q : α} {body : List α} : isQuote q → LiteralBody q body →
      OutsideLiterals isQuote (q :: body) []

variable {α : Type*} [DecidableEq α] {isQuote : α → Prop} [DecidablePred isQuote] {q : α}

variable (isQuote) in
/-- The scan, with the quote of the literal it is in. -/
def scanOutside : Option α → List α → List α
  | _, [] => []
  | some q, a :: text => scanOutside (if a = q then none else some q) text
  | none, a :: text =>
    if isQuote a then scanOutside (some a) text else a :: scanOutside none text

/-- A doubled quote ends the literal and begins one of the same kind, with nothing in between. -/
theorem scanOutside_doubled (hq : isQuote q) (text : List α) :
    scanOutside isQuote (some q) (q :: q :: text) = scanOutside isQuote (some q) text := by
  rw [scanOutside, if_pos rfl, scanOutside, if_pos hq]

theorem LiteralBody.scanOutside_append {body : List α} (h : LiteralBody q body) (hq : isQuote q)
    (text : List α) :
    scanOutside isQuote (some q) (body ++ text) = scanOutside isQuote (some q) text := by
  induction h with
  | nil => rfl
  | other hne _ ih =>
    rw [List.cons_append, scanOutside, if_neg hne]
    exact ih
  | doubled _ ih =>
    rw [List.cons_append, List.cons_append, scanOutside_doubled hq]
    exact ih

theorem OutsideLiterals.scanOutside_eq {text outside : List α}
    (h : OutsideLiterals isQuote text outside) : scanOutside isQuote none text = outside := by
  induction h with
  | nil => rfl
  | plain hplain _ ih => rw [scanOutside, if_neg hplain, ih]
  | literal hq hbody _ _ ih =>
    rw [scanOutside, if_pos hq, hbody.scanOutside_append hq, scanOutside, if_pos rfl, ih]
  | unterminated hq hbody =>
    rw [scanOutside, if_pos hq]
    simpa [scanOutside] using hbody.scanOutside_append hq []

/-- After an opening quote either no quote ends the literal or there is a first one that does. -/
theorem literalBody_or_ends (q : α) (text : List α) :
    LiteralBody q text ∨
      ∃ body rest, text = body ++ q :: rest ∧ LiteralBody q body ∧ rest.head? ≠ some q := by
  -- a doubled quote takes two symbols at once, so the induction is on the length
  induction hn : text.length using Nat.strongRecOn generalizing text with
  | ind n ih =>
    subst hn
    cases text with
    | nil => exact .inl .nil
    | cons a text =>
      by_cases ha : a = q
      · subst ha
        by_cases hsecond : text.head? = some a
        · obtain ⟨text, rfl⟩ := List.head?_eq_some_iff.mp hsecond
          rcases ih text.length (by simp only [List.length_cons]; omega) text rfl with
            hbody | ⟨body, rest, rfl, hbody, hrest⟩
          · exact .inl hbody.doubled
          · exact .inr ⟨a :: a :: body, rest, rfl, hbody.doubled, hrest⟩
        · exact .inr ⟨[], text, rfl, .nil, hsecond⟩
      · rcases ih text.length (by simp) text rfl with hbody | ⟨body, rest, rfl, hbody, hrest⟩
        · exact .inl (.other ha hbody)
        · exact .inr ⟨a :: body, rest, rfl, .other ha hbody, hrest⟩

theorem exists_outsideLiterals (isQuote : α → Prop) [DecidablePred isQuote] (text : List α) :
    ∃ outside, OutsideLiterals isQuote text outside := by
  induction hn : text.length using Nat.strongRecOn generalizing text with
  | ind n ih =>
    subst hn
    cases text with
    | nil => exact ⟨[], .nil⟩
    | cons a text =>
      by_cases ha : isQuote a
      · rcases literalBody_or_ends a text with hbody | ⟨body, rest, rfl, hbody, hrest⟩
        · exact ⟨[], .unterminated ha hbody⟩
        · obtain ⟨outside, h⟩ := ih rest.length (by simp; omega) rest rfl
          exact ⟨outside, .literal ha hbody hrest h⟩
      · obtain ⟨outside, h⟩ := ih text.length (by simp) text rfl
        exact ⟨a :: outside, .plain ha h⟩

/-- The scan finds what is outside the literals, and nothing else is. -/
theorem outsideLiterals_iff {text outside : List α} :
    OutsideLiterals isQuote text outside ↔ scanOutside isQuote none text = outside := by
  constructor
  · exact OutsideLiterals.scanOutside_eq
  · rintro rfl
    obtain ⟨outside, h⟩ := exists_outsideLiterals isQuote text
    rwa [h.scanOutside_eq]

end Ugpibd.Library
