import Reconnect.Sampling.Source

/-!
# Sampling

Numbers and orders drawn from a source of random words. A number below a bound is the upper half of
the product of a word and the bound; words whose product lies in the uneven rest of the range are
passed over, so that every number is equally likely.

## Results

* `Sampling.belowBy_lt`: a drawn number is below its bound, whatever the source gives.
* `Sampling.shuffle_perm`: shuffling keeps all elements.
-/

namespace Reconnect.Sampling

variable {ρ : Type} [Source ρ]

/-- A word of 64 bits as a number. -/
def draw64 (r : ρ) : Nat × ρ :=
  let drawn := Source.next r
  (drawn.1.toNat, drawn.2)

/-- The upper half of a word. -/
def draw32 (r : ρ) : Nat × ρ :=
  let drawn := Source.next r
  (drawn.1.toNat >>> 32, drawn.2)

/-- How many words are passed over at most. Each is passed over with a chance below one half. -/
@[irreducible] def patience : Nat := 4096

/-- The greatest lower half of a product that is taken: the bound, moved to the top of a word of
`width` bits, less one. -/
def zone (width bound : Nat) : Nat := bound <<< (width - (Nat.log2 bound + 1)) - 1

/-- Draws a number below `bound` from words of `width` bits, passing over at most `tries` words. -/
def belowBy (width : Nat) (draw : ρ → Nat × ρ) (bound : Nat) : (tries : Nat) → ρ → Nat × ρ
  | 0, r =>
    let drawn := draw r
    ((drawn.1 * bound) >>> width, drawn.2)
  | tries + 1, r =>
    let drawn := draw r
    if drawn.1 * bound % 1 <<< width ≤ zone width bound then
      ((drawn.1 * bound) >>> width, drawn.2)
    else belowBy width draw bound tries drawn.2

/-- Draws a number below `bound` from halves of words. -/
def below32 (bound : Nat) (r : ρ) : Nat × ρ := belowBy 32 draw32 bound patience r

/-- Draws a number below `bound` from whole words. -/
def below64 (bound : Nat) (r : ρ) : Nat × ρ := belowBy 64 draw64 bound patience r

/-- Draws one of the 2^53 evenly spaced numbers from zero up to one. -/
def unit (r : ρ) : Float × ρ :=
  let drawn := Source.next r
  ((drawn.1 >>> 11).toFloat / 9007199254740992.0, drawn.2)

/-- Exchanges every element from place `i` down to place one with one that is not behind it. -/
def shuffleFrom {α : Type} : (i : Nat) → Array α → ρ → Array α × ρ
  | 0, a, r => (a, r)
  | i + 1, a, r =>
    let drawn := below32 (i + 2) r
    shuffleFrom i (a.swapIfInBounds (i + 1) drawn.1) drawn.2

/-- Puts a list into a random order. -/
def shuffle {α : Type} (l : List α) (r : ρ) : List α × ρ :=
  let shuffled := shuffleFrom (l.length - 1) l.toArray r
  (shuffled.1.toList, shuffled.2)

/-! ## Laws -/

omit [Source ρ] in
theorem belowBy_lt {width bound : Nat} {draw : ρ → Nat × ρ} (hdraw : ∀ r, (draw r).1 < 1 <<< width)
    (hbound : 0 < bound) (tries : Nat) (r : ρ) : (belowBy width draw bound tries r).1 < bound := by
  have key : ∀ r, ((draw r).1 * bound) >>> width < bound := fun r => by
    have hr := hdraw r
    rw [Nat.one_shiftLeft] at hr
    rw [Nat.shiftRight_eq_div_pow, Nat.div_lt_iff_lt_mul (Nat.two_pow_pos width),
      Nat.mul_comm bound]
    exact Nat.mul_lt_mul_of_pos_right hr hbound
  induction tries generalizing r with
  | zero => exact key r
  | succ tries ih =>
    unfold belowBy
    dsimp only
    split
    · exact key r
    · exact ih _

theorem draw64_lt (r : ρ) : (draw64 r).1 < 1 <<< 64 := (Source.next r).1.toNat_lt

theorem draw32_lt (r : ρ) : (draw32 r).1 < 1 <<< 32 := by
  have := (Source.next r).1.toNat_lt
  show (Source.next r).1.toNat >>> 32 < 1 <<< 32
  omega

theorem below64_lt {bound : Nat} (h : 0 < bound) (r : ρ) : (below64 bound r).1 < bound := by
  rw [below64]
  exact belowBy_lt draw64_lt h patience r

theorem below32_lt {bound : Nat} (h : 0 < bound) (r : ρ) : (below32 bound r).1 < bound := by
  rw [below32]
  exact belowBy_lt draw32_lt h patience r

theorem shuffleFrom_perm {α : Type} (i : Nat) (a : Array α) (r : ρ) :
    (shuffleFrom i a r).1.toList.Perm a.toList := by
  induction i generalizing a r with
  | zero => exact List.Perm.refl _
  | succ i ih =>
    rw [shuffleFrom]
    refine (ih _ _).trans ?_
    unfold Array.swapIfInBounds
    split
    · split
      · exact (Array.swap_perm _ _).toList
      · exact List.Perm.refl _
    · exact List.Perm.refl _

theorem shuffle_perm {α : Type} (l : List α) (r : ρ) : (shuffle l r).1.Perm l :=
  shuffleFrom_perm _ _ _

theorem length_shuffle {α : Type} (l : List α) (r : ρ) : (shuffle l r).1.length = l.length :=
  (shuffle_perm l r).length_eq

end Reconnect.Sampling
