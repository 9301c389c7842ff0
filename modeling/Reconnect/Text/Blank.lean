/-!
# Blank characters

The characters with the Unicode property White_Space, and the text that is left when they are cut
off at both ends.

## Results

* `isBlank_of_isWhitespace`: every white space character of ASCII is blank.
* `trim_eq_nil_iff`: nothing is left exactly when every character is blank.
-/

namespace Reconnect.Text

/-- Whether a character has the Unicode property White_Space. -/
def isBlank (c : Char) : Bool :=
  let n := c.toNat
  (0x9 ≤ n && n ≤ 0xd) || n = 0x20 || n = 0x85 || n = 0xa0 || n = 0x1680 ||
    (0x2000 ≤ n && n ≤ 0x200a) || n = 0x2028 || n = 0x2029 || n = 0x202f || n = 0x205f || n = 0x3000

/-- The text without the blanks at its two ends. -/
def trim (l : List Char) : List Char :=
  ((l.dropWhile isBlank).reverse.dropWhile isBlank).reverse

theorem isBlank_of_isWhitespace {c : Char} (h : c.isWhitespace = true) : isBlank c = true := by
  simp only [Char.isWhitespace, Bool.or_eq_true, decide_eq_true_eq] at h
  rcases h with ((rfl | rfl) | rfl) | rfl <;> decide

theorem dropWhile_eq_nil_iff {p : Char → Bool} {l : List Char} :
    l.dropWhile p = [] ↔ ∀ c ∈ l, p c = true := by
  induction l with
  | nil => simp
  | cons c l ih =>
    rw [List.dropWhile_cons]
    split
    · rename_i h
      simp [ih, h]
    · rename_i h
      simp [h]

theorem trim_eq_nil_iff {l : List Char} : trim l = [] ↔ ∀ c ∈ l, isBlank c = true := by
  rw [trim, List.reverse_eq_nil_iff, dropWhile_eq_nil_iff]
  constructor
  · intro h
    rw [← dropWhile_eq_nil_iff]
    cases hl : l.dropWhile isBlank with
    | nil => rfl
    | cons c rest =>
      have hc : isBlank c = true := h c (by simp [hl])
      have : (l.dropWhile isBlank).head? = some c := by rw [hl]; rfl
      have := List.head?_dropWhile_not isBlank l
      simp [hl, hc] at this
  · intro h c hc
    exact h c (List.dropWhile_subset isBlank (List.mem_reverse.mp hc))

end Reconnect.Text
