import Mathlib.Data.List.Basic

/-! A list cut into pieces of one size, the last of them perhaps shorter. -/
namespace Ugpibd.Library

variable {α : Type*} {size : Nat} {data : List α}

/-- The pieces in order; none are empty. -/
def chunks (size : Nat) (data : List α) : List (List α) :=
  if h : data = [] ∨ size = 0 then []
  else data.take size :: chunks size (data.drop size)
termination_by data.length
decreasing_by
  obtain ⟨hdata, hsize⟩ := not_or.mp h
  have := List.length_pos_of_ne_nil hdata
  rw [List.length_drop]
  omega

theorem chunks_cons (hdata : data ≠ []) (hsize : 0 < size) :
    chunks size data = data.take size :: chunks size (data.drop size) := by
  rw [chunks, dif_neg (by simp [hdata, Nat.pos_iff_ne_zero.mp hsize])]

theorem chunks_flatten (hsize : 0 < size) (data : List α) : (chunks size data).flatten = data := by
  fun_induction chunks size data with
  | case1 data h =>
    rcases h with rfl | h
    · rfl
    · omega
  | case2 data h ih => rw [List.flatten_cons, ih, List.take_append_drop]

theorem length_le_of_mem_chunks {piece : List α} (h : piece ∈ chunks size data) :
    piece.length ≤ size := by
  fun_induction chunks size data with
  | case1 => cases h
  | case2 data hdata ih =>
    rcases List.mem_cons.mp h with rfl | h
    · exact List.length_take_le size data
    · exact ih h

end Ugpibd.Library
