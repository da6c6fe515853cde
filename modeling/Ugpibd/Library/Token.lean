import Mathlib.Logic.Function.Basic

/-! A token that many parties share: a flag that is up exactly while one of them holds it. Parties move
one at a time, so that exclusion over a whole run is a matter of what one party does with the flag. -/
namespace Ugpibd.Library

variable {ι κ : Type*} {holds : κ → Bool} {parties : ι → κ} {flag flag' : Bool}

structure Exclusive (holds : κ → Bool) (parties : ι → κ) (flag : Bool) : Prop where
  flag_iff : flag = true ↔ ∃ i, holds (parties i) = true
  unique : ∀ i j, holds (parties i) = true → holds (parties j) = true → i = j

/-- What a party may do with a token and its flag: leave both alone, take a token whose flag is down,
or give back the one it has. -/
inductive Passes : (held held' flag flag' : Bool) → Prop
  | keeps {held flag : Bool} : Passes held held flag flag
  | takes {held : Bool} : Passes held true false true
  | gives {flag : Bool} : Passes true false flag false

theorem exclusive_start {party : κ} (h : holds party = false) :
    Exclusive holds (fun _ : ι => party) false where
  flag_iff := by simp [h]
  unique := fun i j hi => by simp [h] at hi

theorem Exclusive.update [DecidableEq ι] (h : Exclusive holds parties flag) {i : ι} {party : κ}
    (hpasses : Passes (holds (parties i)) (holds party) flag flag') :
    Exclusive holds (Function.update parties i party) flag' := by
  have hself : Function.update parties i party i = party := Function.update_self ..
  have hother : ∀ j, j ≠ i → Function.update parties i party j = parties j :=
    fun j hne => Function.update_of_ne hne ..
  generalize hheld : holds (parties i) = held at hpasses
  generalize hheld' : holds party = held' at hpasses
  cases hpasses with
  | keeps =>
    -- who holds the token is unchanged, party by party
    have hsame (j : ι) : holds (Function.update parties i party j) = holds (parties j) := by
      by_cases hne : j = i
      · rw [hne, hself, hheld, hheld']
      · rw [hother j hne]
    exact ⟨by simpa only [hsame] using h.flag_iff, by simpa only [hsame] using h.unique⟩
  | takes =>
    have hnobody (j : ι) : ¬ holds (parties j) = true :=
      fun hj => Bool.false_ne_true (h.flag_iff.mpr ⟨j, hj⟩)
    have honly (j : ι) (hj : holds (Function.update parties i party j) = true) : j = i := by
      by_contra hne
      rw [hother j hne] at hj
      exact hnobody j hj
    refine ⟨⟨fun _ => ⟨i, by rw [hself, hheld']⟩, fun _ => rfl⟩, ?_⟩
    exact fun j k hj hk => (honly j hj).trans (honly k hk).symm
  | gives =>
    have hnobody (j : ι) : ¬ holds (Function.update parties i party j) = true := by
      intro hj
      by_cases hne : j = i
      · rw [hne, hself, hheld'] at hj
        cases hj
      · rw [hother j hne] at hj
        exact hne (h.unique j i hj hheld)
    refine ⟨⟨(fun hflag => by cases hflag), ?_⟩, fun j k hj => absurd hj (hnobody j)⟩
    rintro ⟨j, hj⟩
    exact absurd hj (hnobody j)

end Ugpibd.Library
