/-!
# Ranges of code points

A class of characters is written down as the ranges of its code points.

## Results

* `Ranges.has_iff`: what it means to be in one of the ranges.
* `Ranges.has_append`, `Ranges.has_eq_false_of_lt`: a table can be looked up part by part.
-/

namespace Reconnect.Text

/-- Ranges of code points, with both ends included. -/
abbrev Ranges := List (Nat × Nat)

namespace Ranges

/-- Whether a code point lies in one of the ranges. -/
def has (r : Ranges) (n : Nat) : Bool := r.any fun (low, high) => low ≤ n && n ≤ high

theorem has_iff {r : Ranges} {n : Nat} : r.has n = true ↔ ∃ p ∈ r, p.1 ≤ n ∧ n ≤ p.2 := by
  simp [has]

theorem has_append (r s : Ranges) (n : Nat) : has (r ++ s) n = (r.has n || s.has n) :=
  List.any_append

/-- A code point below all of the ranges is in none. -/
theorem has_eq_false_of_lt {r : Ranges} {k n : Nat} (hr : r.all (k ≤ ·.1) = true) (hn : n < k) :
    r.has n = false := by
  rw [Bool.eq_false_iff, ne_eq, has_iff]
  rintro ⟨p, hp, hlow, -⟩
  have hk : k ≤ p.1 := by simpa using List.all_eq_true.mp hr p hp
  omega

/-- The ranges are in order, with gaps between them. -/
def ordered : Ranges → Bool
  | [] => true
  | [(low, high)] => low ≤ high
  | (low, high) :: (next, last) :: r =>
    low ≤ high && high + 1 < next && ordered ((next, last) :: r)

/-- The number of code points in the ranges, if no two of them overlap. -/
def count (r : Ranges) : Nat := r.foldr (fun (low, high) n => high + 1 - low + n) 0

end Ranges

end Reconnect.Text
