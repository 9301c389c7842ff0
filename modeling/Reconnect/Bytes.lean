/-!
# Byte strings and big-endian words

Every integer on the wire is a fixed number of bytes, most significant first; signed integers are
written in two's complement.

## Results

* `Bytes.toNat_ofNat`, `Bytes.ofNat_toNat`: the `width` bytes of a number read back modulo
  `Bytes.bound width`, and every byte string is the big-endian form of its value.
* `Bytes.toInt32_ofInt32`, `Bytes.ofInt32_toInt32` and the same pair for 64 bits.
* `Bytes.split?_eq_some_iff`: a byte string splits at `n` exactly when it has `n` bytes.
-/

namespace Reconnect

abbrev Bytes := List UInt8

namespace Bytes

/-- The number of byte strings of the given length, and so the first number that does not fit. -/
def bound : Nat → Nat
  | 0 => 1
  | width + 1 => 256 * bound width

/-- The `width` big-endian bytes of `n`; what does not fit is dropped. -/
def ofNat : Nat → Nat → Bytes
  | 0, _ => []
  | width + 1, n => UInt8.ofNat (n / bound width) :: ofNat width n

/-- The number with the given big-endian bytes. -/
def toNat (bytes : Bytes) : Nat :=
  bytes.foldl (fun n b => 256 * n + b.toNat) 0

def ofInt32 (i : Int32) : Bytes := ofNat 4 i.toUInt32.toNat

def toInt32 (bytes : Bytes) : Int32 := (UInt32.ofNat bytes.toNat).toInt32

def ofInt64 (i : Int64) : Bytes := ofNat 8 i.toUInt64.toNat

def toInt64 (bytes : Bytes) : Int64 := (UInt64.ofNat bytes.toNat).toInt64

/-- The first `n` bytes and the rest, or `none` if there are fewer. -/
def split? (n : Nat) (bytes : Bytes) : Option (Bytes × Bytes) :=
  let front := bytes.take n
  if front.length = n then some (front, bytes.drop n) else none

/-! ## Numbers -/

theorem bound_pos (width : Nat) : 0 < bound width := by
  induction width with
  | zero => decide
  | succ width ih => exact Nat.mul_pos (by decide) ih

@[simp] theorem length_ofNat (width n : Nat) : (ofNat width n).length = width := by
  induction width with
  | zero => rfl
  | succ width ih => simp [ofNat, ih]

theorem foldl_eq (bytes : Bytes) (n : Nat) :
    bytes.foldl (fun n b => 256 * n + b.toNat) n = n * bound bytes.length + toNat bytes := by
  induction bytes generalizing n with
  | nil => simp [toNat, bound]
  | cons b bytes ih =>
    simp only [toNat, List.foldl_cons, List.length_cons, Nat.mul_zero, Nat.zero_add]
    rw [ih, ih (b.toNat), bound, Nat.add_mul, Nat.add_assoc]
    congr 1
    rw [Nat.mul_comm 256 n, Nat.mul_assoc]

@[simp] theorem toNat_nil : toNat [] = 0 := rfl

theorem toNat_cons (b : UInt8) (bytes : Bytes) :
    toNat (b :: bytes) = b.toNat * bound bytes.length + toNat bytes := by
  rw [toNat, List.foldl_cons, foldl_eq]
  simp

theorem toNat_lt (bytes : Bytes) : toNat bytes < bound bytes.length := by
  induction bytes with
  | nil => decide
  | cons b bytes ih =>
    rw [toNat_cons, List.length_cons, bound]
    have hb : b.toNat < 256 := b.toNat_lt
    have : b.toNat * bound bytes.length + bound bytes.length ≤ 256 * bound bytes.length := by
      rw [← Nat.succ_mul]
      exact Nat.mul_le_mul_right _ hb
    omega

theorem toNat_ofNat (width n : Nat) : toNat (ofNat width n) = n % bound width := by
  induction width with
  | zero => simp [ofNat, bound, Nat.mod_one]
  | succ width ih =>
    rw [ofNat, toNat_cons, length_ofNat, ih, bound, Nat.mul_comm 256, Nat.mod_mul,
      UInt8.toNat_ofNat', Nat.mul_comm, Nat.add_comm]

theorem toNat_ofNat_of_lt {width n : Nat} (h : n < bound width) : toNat (ofNat width n) = n := by
  rw [toNat_ofNat, Nat.mod_eq_of_lt h]

theorem ofNat_add_mul (width a n : Nat) : ofNat width (a * bound width + n) = ofNat width n := by
  suffices ∀ w c, w ≤ width → ofNat w (c * bound w + n) = ofNat w n from
    this width a (Nat.le_refl _)
  intro w
  induction w with
  | zero => intros; rfl
  | succ w ih =>
    intro c hw
    have hc : c * bound (w + 1) = 256 * c * bound w := by
      rw [bound, Nat.mul_comm 256 c, Nat.mul_assoc]
    rw [ofNat, ofNat, hc, ih (256 * c) (by omega), Nat.mul_comm (256 * c),
      Nat.mul_add_div (bound_pos w)]
    congr 1
    apply UInt8.toNat_inj.mp
    rw [UInt8.toNat_ofNat', UInt8.toNat_ofNat', Nat.mul_add_mod]

theorem ofNat_toNat (bytes : Bytes) : ofNat bytes.length (toNat bytes) = bytes := by
  induction bytes with
  | nil => rfl
  | cons b bytes ih =>
    have hlt := toNat_lt bytes
    rw [List.length_cons, ofNat, toNat_cons, ofNat_add_mul, ih]
    congr 1
    rw [Nat.mul_comm, Nat.mul_add_div (bound_pos _), Nat.div_eq_of_lt hlt,
      Nat.add_zero, UInt8.ofNat_toNat]

/-! ## Signed words -/

@[simp] theorem length_ofInt32 (i : Int32) : (ofInt32 i).length = 4 := length_ofNat 4 _

@[simp] theorem length_ofInt64 (i : Int64) : (ofInt64 i).length = 8 := length_ofNat 8 _

@[simp] theorem toInt32_ofInt32 (i : Int32) : toInt32 (ofInt32 i) = i := by
  have h : i.toUInt32.toNat < bound 4 := i.toUInt32.toNat_lt
  rw [toInt32, ofInt32, toNat_ofNat_of_lt h, UInt32.ofNat_toNat, Int32.toInt32_toUInt32]

@[simp] theorem toInt64_ofInt64 (i : Int64) : toInt64 (ofInt64 i) = i := by
  have h : i.toUInt64.toNat < bound 8 := i.toUInt64.toNat_lt
  rw [toInt64, ofInt64, toNat_ofNat_of_lt h, UInt64.ofNat_toNat, Int64.toInt64_toUInt64]

theorem ofInt32_toInt32 {bytes : Bytes} (h : bytes.length = 4) :
    ofInt32 (toInt32 bytes) = bytes := by
  have hlt : bytes.toNat < 2 ^ 32 := by have := toNat_lt bytes; rwa [h] at this
  rw [ofInt32, toInt32, UInt32.toUInt32_toInt32, UInt32.toNat_ofNat', Nat.mod_eq_of_lt hlt, ← h,
    ofNat_toNat]

theorem ofInt64_toInt64 {bytes : Bytes} (h : bytes.length = 8) :
    ofInt64 (toInt64 bytes) = bytes := by
  have hlt : bytes.toNat < 2 ^ 64 := by have := toNat_lt bytes; rwa [h] at this
  rw [ofInt64, toInt64, UInt64.toUInt64_toInt64, UInt64.toNat_ofNat', Nat.mod_eq_of_lt hlt, ← h,
    ofNat_toNat]

/-! ## Splitting -/

theorem split?_eq_some_iff {n : Nat} {bytes front rest : Bytes} :
    split? n bytes = some (front, rest) ↔ bytes = front ++ rest ∧ front.length = n := by
  simp only [split?]
  constructor
  · intro h
    split at h
    · rename_i hn
      simp only [Option.some.injEq, Prod.mk.injEq] at h
      obtain ⟨rfl, rfl⟩ := h
      exact ⟨(List.take_append_drop n bytes).symm, hn⟩
    · cases h
  · rintro ⟨rfl, rfl⟩
    simp

theorem split?_eq_none_iff {n : Nat} {bytes : Bytes} :
    split? n bytes = none ↔ bytes.length < n := by
  simp only [split?]
  split
  · rename_i h
    rw [List.length_take] at h
    simp only [reduceCtorEq, false_iff]
    omega
  · rename_i h
    rw [List.length_take] at h
    simp only [true_iff]
    omega

end Bytes

end Reconnect
