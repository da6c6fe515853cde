import Mathlib.Data.List.Infix

/-! Texts made of fixed parts with values inserted between them, and where a pattern can occur in
them once their symbols are folded (to one case, say). -/
namespace Ugpibd.Library

variable {α : Type*} {head : α} {p l m : List α}

theorem infix_append_of_ne (h : ∀ a ∈ m, a ≠ head) :
    head :: p <:+: m ++ l ↔ head :: p <:+: l := by
  induction m with
  | nil => rfl
  | cons a m ih =>
    rw [List.cons_append, List.infix_cons_iff, ih fun b hb => h b (List.mem_cons_of_mem a hb)]
    refine or_iff_right fun hstarts => ?_
    exact h a List.mem_cons_self (List.cons_prefix_cons.mp hstarts).1.symm

/-- No occurrence of a pattern reaches over a symbol that the pattern does not have. -/
theorem infix_append_cons {s : α} (hs : s ∉ p) (hp : p ≠ []) :
    p <:+: l ++ s :: m ↔ p <:+: l ∨ p <:+: m := by
  have hstarts : ∀ {q}, (∀ a ∈ q, a ∈ p) → q <+: s :: m → q = [] := by
    rintro (_ | ⟨a, q⟩) hq hstarts
    · rfl
    · rw [(List.cons_prefix_cons.mp hstarts).1] at hq
      exact absurd (hq s List.mem_cons_self) hs
  rw [List.infix_append_iff, List.infix_cons_iff]
  constructor
  · rintro (hl | (hstart | hm) | ⟨q, r, rfl, hq, hr⟩)
    · exact .inl hl
    · exact absurd (hstarts (fun _ ha => ha) hstart) hp
    · exact .inr hm
    · rw [hstarts (fun _ ha => List.mem_append_right q ha) hr, List.append_nil]
      exact .inl hq.isInfix
  · rintro (hl | hm)
    · exact .inl hl
    · exact .inr (.inl (.inr hm))

/-- An inserted value that no occurrence of a pattern with that head touches: it begins with a symbol
that patterns do not have, and none of its others is the head. -/
structure Filler (fold : α → α) (head : α) (separates : α → Prop) where
  symbols : List α
  clear : ∃ first rest, symbols = first :: rest ∧ separates (fold first) ∧
    ∀ a ∈ rest, fold a ≠ head

/-- Fixed parts with fillers between them. -/
inductive Template (fold : α → α) (head : α) (separates : α → Prop)
  | last (part : List α)
  | cons (part : List α) (filler : Filler fold head separates)
      (rest : Template fold head separates)

namespace Template
variable {fold : α → α} {separates : α → Prop}

def render : Template fold head separates → List α
  | .last part => part
  | .cons part filler rest => part ++ (filler.symbols ++ rest.render)

/-- Does a pattern occur in one of the fixed parts? -/
def has [DecidableEq α] (p : List α) : Template fold head separates → Bool
  | .last part => decide (p <:+: part.map fold)
  | .cons part _ rest => decide (p <:+: part.map fold) || rest.has p

/-- The fixed parts are all there is to look at. -/
theorem has_iff [DecidableEq α] (hp : ∀ a ∈ head :: p, ¬ separates a)
    (t : Template fold head separates) :
    t.has (head :: p) = true ↔ head :: p <:+: t.render.map fold := by
  induction t with
  | last part => exact decide_eq_true_iff
  | cons part filler rest ih =>
    obtain ⟨symbols, first, others, rfl, hfirst, hothers⟩ := filler
    have hsep : fold first ∉ head :: p := fun hmem => hp _ hmem hfirst
    have hskip : ∀ a ∈ others.map fold, a ≠ head := by
      intro a ha
      obtain ⟨b, hb, rfl⟩ := List.mem_map.mp ha
      exact hothers b hb
    simp only [has, render, Bool.or_eq_true, decide_eq_true_iff, ih, List.map_append, List.map_cons,
      List.cons_append]
    rw [infix_append_cons hsep (List.cons_ne_nil head p), infix_append_of_ne hskip]

end Template
end Ugpibd.Library
