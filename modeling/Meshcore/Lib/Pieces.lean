import Mathlib.Algebra.BigOperators.Group.List.Lemmas
import Mathlib.Tactic

/-!
# Records of one size

Records of `k` elements each, written one behind the other. Record `i` starts at `i * k`.

## Main definitions

* `PiecesOf k pieces` — each of the pieces has `k` elements

## Main results

* `PiecesOf.length_flatten`, `PiecesOf.take_drop_flatten`
-/

variable {α : Type*}

/-- Each of the pieces has `k` elements. -/
def PiecesOf (k : ℕ) (pieces : List (List α)) : Prop := ∀ piece ∈ pieces, piece.length = k

namespace PiecesOf

variable {k : ℕ} {pieces : List (List α)}

theorem map_length (h : PiecesOf k pieces) :
    pieces.map List.length = List.replicate pieces.length k :=
  List.map_eq_replicate_iff.mpr h

theorem length_flatten (h : PiecesOf k pieces) : pieces.flatten.length = pieces.length * k := by
  rw [List.length_flatten, h.map_length, List.sum_replicate, smul_eq_mul]

theorem sum_take (h : PiecesOf k pieces) {i : ℕ} (hi : i ≤ pieces.length) :
    ((pieces.map List.length).take i).sum = i * k := by
  rw [h.map_length, List.take_replicate, List.sum_replicate, smul_eq_mul, Nat.min_eq_left hi]

/-- Each piece is found where it was written. -/
theorem take_drop_flatten (h : PiecesOf k pieces) {i : ℕ} (hi : i < pieces.length) :
    (pieces.flatten.drop (i * k)).take k = pieces[i] := by
  have hpiece := List.drop_take_succ_flatten_eq_getElem pieces i hi
  rw [h.sum_take hi.le, h.sum_take hi, List.drop_take, Nat.succ_mul, Nat.add_sub_cancel_left]
    at hpiece
  exact hpiece

/-- The same for pieces that are made from the indices. -/
theorem take_drop_flatMap_range {f : ℕ → List α} {n i : ℕ} (h : ∀ i < n, (f i).length = k)
    (hi : i < n) : (((List.range n).flatMap f).drop (i * k)).take k = f i := by
  have hpieces : PiecesOf k ((List.range n).map f) := by
    simpa [PiecesOf] using h
  rw [List.flatMap_def, hpieces.take_drop_flatten (by simpa using hi)]
  simp

theorem length_flatMap_range {f : ℕ → List α} {n : ℕ} (h : ∀ i < n, (f i).length = k) :
    ((List.range n).flatMap f).length = n * k := by
  have hpieces : PiecesOf k ((List.range n).map f) := by
    simpa [PiecesOf] using h
  rw [List.flatMap_def, hpieces.length_flatten, List.length_map, List.length_range]

end PiecesOf
