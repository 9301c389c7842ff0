import Mathlib
import Reconnect.Hosts.Migration
import Reconnect.Sampling

/-!
# Draws

A client decides by a draw: the upper 53 bits of a word, divided by the 53rd power of two.  Both the
division and the comparison with the client's chance are those of floating-point numbers.  The two
chances that leave no choice are decided because every draw is at least zero and below one, and
because the comparison is strict.

## Protocol

* A positive number of up to 53 bits is exact: its bits are shifted to the top of the mantissa.
* A division by the 53rd power of two is exact, too: it takes 53 off the exponent.

## Results

* `Sampling.unpack_pack`: a mantissa of 53 bits is read back as it was packed.
* `Sampling.unpack_ofNat`, `Sampling.div_power`: what the two steps of a draw come to.
* `Sampling.zero_le_unit`, `Sampling.unit_lt_one`: **every draw is at least zero and below one**,
  whatever the source gives.
* `Chance.hits_iff`: such a draw hits a chance exactly if it is below the value of the chance.
-/

namespace Reconnect

namespace Sampling

open Float.Model Float.Model.UnpackedFloat

/-! ## Packing -/

theorem log2_shiftLeft {n : Nat} (hn : 0 < n) (k : Nat) : (n <<< k).log2 = n.log2 + k := by
  induction k with
  | zero => rfl
  | succ k ih =>
    rw [Nat.shiftLeft_succ, Nat.log2_two_mul (Nat.ne_of_gt (Nat.shiftLeft_pos_iff.mpr hn)), ih]
    rfl

section Full

variable {m : Nat} {e : Int} (hm : 0 < m) (hfull : m.log2 = 52)

include hfull

/-- A mantissa of 53 bits with an exponent in range is packed and read back without a loss. -/
theorem unpack_pack (hlow : -1074 ≤ e) (hhigh : e ≤ 971) :
    (Float.Model.pack (.finite .positive m e hm)).unpack = .finite .positive m e hm := by
  obtain ⟨b, hb⟩ : ∃ b : Nat, e + 1023 + 52 = b := ⟨(e + 1023 + 52).toNat, by omega⟩
  have hpacked : UnpackedFloat.pack Format.binary64 (.finite .positive m e hm) =
      packComponents Format.binary64 .positive (BitVec.ofNat 11 b) (BitVec.ofNat 52 m) := by
    have hfits : ¬ 2 ^ 11 ≤ b + 1 := by omega
    have hbias : e + (Format.binary64.exponentBias : Int) +
        (Format.binary64.mantissaBitsWithoutImplicit : Int) = b := hb
    have hbits : m.log2 + 1 = Format.binary64.mantissaBits := by rw [hfull]; rfl
    simp only [UnpackedFloat.pack, hbias, Int.toNat_natCast, hfits, if_false, hbits, if_true]
  have hexponent : (BitVec.ofNat 11 b).toNat = b := Nat.mod_eq_of_lt (by omega)
  -- the first bit of the mantissa is not packed; it is set, as the mantissa is full
  have hmantissa : (1#1 ++ BitVec.ofNat 52 m).toNat = m := by
    obtain ⟨hleast, hmost⟩ := (Nat.log2_eq_iff (Nat.ne_of_gt hm)).mp hfull
    rw [BitVec.toNat_append, ← Nat.shiftLeft_add_eq_or_of_lt (BitVec.isLt _), BitVec.toNat_ofNat,
      BitVec.toNat_ofNat, Nat.shiftLeft_eq]
    omega
  have hnormal : BitVec.ofNat 11 b ≠ 0#11 := by
    intro h
    rw [h] at hexponent
    change 0 = b at hexponent
    omega
  have hfinite : BitVec.ofNat 11 b ≠ -1#11 := by
    intro h
    rw [h] at hexponent
    change 2047 = b at hexponent
    omega
  have hplace : (b : Int) - ((Format.binary64.exponentBias : Int) + (52 : Nat)) = e := by
    change (b : Int) - (1023 + 52) = e
    omega
  change UnpackedFloat.unpack Format.binary64 (UnpackedFloat.pack Format.binary64 _) = _
  rw [hpacked]
  unfold UnpackedFloat.unpack
  simp only [unpackExponent_packComponents, unpackMantissa_packComponents, hfinite, hnormal,
    if_false, hexponent, hmantissa, unpackSign_packComponents, Sign.ofBitVec_toBitVec, hplace]

/-! ## Rounding -/

/-- A mantissa of 53 bits stays as it is. -/
theorem shift_full (hlow : -1074 ≤ e) :
    shiftToTargetExponent Format.binary64 m e .exact = (⟨m, false, false⟩, e) := by
  have htarget : Format.binary64.targetExponent (totalExponent m e) = e := by
    simp only [Format.targetExponent, totalExponent, hfull, Format.minExponent, Format.mantissaBits]
    omega
  simp only [shiftToTargetExponent, htarget, shiftToExponent, Int.sub_self, Int.toNat_zero]
  rw [Int.ofNat_zero, Int.add_zero]
  rfl

include hm

/-- A mantissa of 54 bits loses the last one. -/
theorem shift_double (hlow : -1075 ≤ e) :
    shiftToTargetExponent Format.binary64 (m <<< 1) e .exact = (⟨m, false, false⟩, e + 1) := by
  have htarget : Format.binary64.targetExponent (totalExponent (m <<< 1) e) = e + 1 := by
    simp only [Format.targetExponent, totalExponent, log2_shiftLeft hm, hfull, Format.minExponent,
      Format.mantissaBits]
    omega
  have hone : (e + 1 - e).toNat = 1 := by omega
  have hhalf : (m <<< 1) / 2 = m := by
    rw [Nat.shiftLeft_eq]
    omega
  have heven : (m <<< 1) % 2 = 0 := by
    rw [Nat.shiftLeft_eq]
    omega
  rw [shiftToTargetExponent, htarget, shiftToExponent, hone]
  change (ExtendedMantissa.mk ((m <<< 1) / 2) ((m <<< 1) % 2 != 0) false, e + 1) = _
  rw [hhalf, heven]
  rfl

omit hm in
/-- What is shifted to a mantissa of 53 bits with nothing behind it is rounded to it. -/
theorem round_of_shift (hm : 0 < m) (hlow : -1074 ≤ e) {k : Nat} {f : Int}
    (hshift : shiftToTargetExponent Format.binary64 k f .exact = (⟨m, false, false⟩, e)) :
    roundWithAccuracy Format.binary64 .positive k f .exact = .finite .positive m e hm := by
  have hrounded : (ExtendedMantissa.mk m false false).roundedMantissa = m := rfl
  simp only [roundWithAccuracy, hshift, hrounded, shift_full hfull hlow, Nat.ne_of_gt hm, dif_neg,
    not_false_iff]

omit hm in
/-- Dividing by the 53rd power of two moves the exponent, and the mantissa stays. -/
theorem div_power (hm : 0 < m) (hlow : -1020 ≤ e) :
    UnpackedFloat.div Format.binary64 (.finite .positive m e hm)
      (.finite .positive 4503599627370496 1 (by decide)) = .finite .positive m (e - 53) hm := by
  have hpower : (4503599627370496).log2 = 52 := by decide
  have htarget : min (e - 1) (Format.binary64.targetExponent
      (totalExponent m e - totalExponent 4503599627370496 1)) = e - 54 := by
    simp only [Format.targetExponent, totalExponent, hfull, hpower, Format.minExponent,
      Format.mantissaBits]
    omega
  have hamount : (e - 1 - (e - 54)).toNat = 53 := by omega
  have hquotient : (m <<< 53) / 4503599627370496 = m <<< 1 := by
    rw [Nat.shiftLeft_eq, Nat.shiftLeft_eq]
    omega
  have hrest : (m <<< 53) % 4503599627370496 = 0 := by
    rw [Nat.shiftLeft_eq]
    omega
  have hplace : e - 54 + 1 = e - 53 := by omega
  -- the quotient has one bit more than a mantissa, which is zero
  simp only [UnpackedFloat.div, divCore, htarget, hamount, hquotient, hrest, accuracyOfFraction,
    if_true]
  rw [← hplace]
  exact round_of_shift hfull hm (by omega) (shift_double hm hfull (by omega))

end Full

/-- A positive number of up to 53 bits is exact. -/
theorem unpack_ofNat {n : Nat} (hn : 0 < n) (hlog : n.log2 ≤ 52) :
    (Float.Model.ofNat n).unpack =
      .finite .positive (n <<< (52 - n.log2)) (n.log2 - 52) (Nat.shiftLeft_pos_iff.mpr hn) := by
  have hpos : 0 < n <<< (52 - n.log2) := Nat.shiftLeft_pos_iff.mpr hn
  have hfull : (n <<< (52 - n.log2)).log2 = 52 := by
    rw [log2_shiftLeft hn]
    omega
  have htarget : Format.binary64.targetExponent (totalExponent n 0) = n.log2 - 52 := by
    simp only [Format.targetExponent, totalExponent, Format.minExponent, Format.mantissaBits]
    omega
  have hamount : (0 - ((n.log2 : Int) - 52)).toNat = 52 - n.log2 := by omega
  have hexponent : (0 : Int) - (52 - n.log2 : Nat) = n.log2 - 52 := by omega
  have hround : UnpackedFloat.round Format.binary64 .positive n 0 =
      .finite .positive (n <<< (52 - n.log2)) (n.log2 - 52) hpos := by
    simp only [UnpackedFloat.round, htarget, decreaseExponent, hamount, hexponent]
    exact round_of_shift hfull hpos (by omega) (shift_full hfull (by omega))
  have hnormal : UnpackedFloat.ofNat Format.binary64 n =
      .finite .positive (n <<< (52 - n.log2)) (n.log2 - 52) hpos := by
    rw [UnpackedFloat.ofNat, UnpackedFloat.ofInt, UnpackedFloat.normalize,
      Int.compare_eq_gt.mpr (by omega)]
    exact hround
  rw [Float.Model.ofNat, hnormal]
  exact unpack_pack hpos hfull (by omega) (by omega)

/-! ## Constants and comparisons -/

theorem unpack_zero : (0.0 : Float).toModel.unpack = .zero .positive := by
  have hpacked : (0.0 : Float).toModel = Float.Model.pack (.zero .positive) := by decide +kernel
  rw [hpacked]
  rfl

/-- A power of two is read back as its exponent says. -/
theorem unpack_of_power {a : Float} {e : Int} (hlow : -1074 ≤ e) (hhigh : e ≤ 971)
    (hpacked : a.toModel =
      Float.Model.pack (.finite .positive 4503599627370496 e (by decide))) :
    a.toModel.unpack = .finite .positive 4503599627370496 e (by decide) := by
  rw [hpacked]
  exact unpack_pack (by decide) (by decide) hlow hhigh

theorem unpack_one :
    (1.0 : Float).toModel.unpack = .finite .positive 4503599627370496 (-52) (by decide) :=
  unpack_of_power (by decide) (by decide) (by decide +kernel)

theorem unpack_divisor :
    (9007199254740992.0 : Float).toModel.unpack =
      .finite .positive 4503599627370496 1 (by decide) :=
  unpack_of_power (by decide) (by decide) (by decide +kernel)

theorem lt_iff_compare {a b : Float} :
    a < b ↔ a.toModel.unpack.compare b.toModel.unpack = some .lt := by
  have hlt : a < b ↔ (a.toModel.unpack.compare b.toModel.unpack == some .lt) = true := by
    change decide (a.toModel < b.toModel) = true ↔ _
    exact decide_eq_true_iff
  rw [hlt, beq_iff_eq]

theorem le_iff_compare {a b : Float} :
    a ≤ b ↔ (a.toModel.unpack.compare b.toModel.unpack).any (·.isLE) = true := by
  change decide (a.toModel ≤ b.toModel) = true ↔ _
  exact decide_eq_true_iff

/-- What is at least zero is not below zero, not a number or not. -/
theorem not_lt_zero {a : Float} (h : 0.0 ≤ a) : ¬ a < 0.0 := by
  rw [le_iff_compare, unpack_zero] at h
  rw [lt_iff_compare, unpack_zero]
  generalize a.toModel.unpack = u at h ⊢
  cases u with
  | infinity sign => cases sign <;> simp_all [UnpackedFloat.compare]
  | notANumber => cases h
  | zero sign => simp_all [UnpackedFloat.compare]
  | finite sign m e hm => cases sign <;> simp_all [UnpackedFloat.compare]

/-! ## The interval -/

variable {ρ : Type} [Source ρ]

/-- The bits of a draw as a number. -/
def drawnBits (r : ρ) : Nat := ((Source.next r).1 >>> 11).toNat

theorem log2_drawnBits (r : ρ) : (drawnBits r).log2 ≤ 52 := by
  have hword := (Source.next r).1.toNat_lt
  have hlt : drawnBits r < 2 ^ 53 := by
    change (Source.next r).1.toNat >>> 11 < _
    rw [Nat.shiftRight_eq_div_pow]
    omega
  rcases Nat.eq_zero_or_pos (drawnBits r) with hzero | hpos
  · rw [hzero]
    decide
  · have hlog := (Nat.log2_lt (Nat.ne_of_gt hpos)).mpr hlt
    omega

/-- A draw is zero, or it is positive and its exponent is too small for a number from one on. -/
theorem unpack_unit (r : ρ) :
    (unit r).1.toModel.unpack = .zero .positive ∨
      ∃ m e, ∃ hm : 0 < m, (unit r).1.toModel.unpack = .finite .positive m e hm ∧ e < -52 := by
  have hlog := log2_drawnBits r
  have hquotient : (unit r).1.toModel.unpack =
      (Float.Model.pack (UnpackedFloat.div Format.binary64
        (Float.Model.ofNat (drawnBits r)).unpack
        (9007199254740992.0 : Float).toModel.unpack)).unpack := rfl
  rw [hquotient, unpack_divisor]
  rcases Nat.eq_zero_or_pos (drawnBits r) with hzero | hpos
  · rw [hzero]
    exact .inl rfl
  · have hfull : (drawnBits r <<< (52 - (drawnBits r).log2)).log2 = 52 := by
      rw [log2_shiftLeft hpos]
      omega
    rw [unpack_ofNat hpos hlog, div_power hfull _ (by omega)]
    exact .inr ⟨_, _, _, unpack_pack _ hfull (by omega) (by omega), by omega⟩

theorem zero_le_unit (r : ρ) : 0.0 ≤ (unit r).1 := by
  rw [le_iff_compare, unpack_zero]
  rcases unpack_unit r with hzero | ⟨m, e, hm, hfinite, -⟩
  · rw [hzero]
    rfl
  · rw [hfinite]
    rfl

theorem unit_lt_one (r : ρ) : (unit r).1 < 1.0 := by
  rw [lt_iff_compare, unpack_one]
  rcases unpack_unit r with hzero | ⟨m, e, hm, hfinite, hsmall⟩
  · rw [hzero]
    rfl
  · rw [hfinite]
    simp only [UnpackedFloat.compare, Int.compare_eq_lt.mpr hsmall, Ordering.then]

end Sampling

namespace Chance

/-- A draw of the interval hits a chance exactly if it is below its value: none is below zero, and
all are below one. -/
theorem hits_iff {c : Chance} {draw : Float} (hzero : 0.0 ≤ draw) (hone : draw < 1.0) :
    c.hits draw = true ↔ draw < c.value := by
  cases c with
  | never =>
    have hnot : ¬ draw < 0.0 := Sampling.not_lt_zero hzero
    exact ⟨fun h => (Bool.false_ne_true h).elim, fun h => (hnot h).elim⟩
  | always => exact ⟨fun _ => hone, fun _ => rfl⟩
  | share kept total => exact decide_eq_true_iff

end Chance

end Reconnect
