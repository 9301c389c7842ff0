import Reconnect.Frame
import Reconnect.Settings

/-!
# Blocks of memory to read into

The bytes that were read and are not yet decoded lie in a block of memory, behind the place that
those before them have left. One read brings no more than there is room for behind them. When more
room is called for, the bytes move to the front of the block if that gives enough and they are no
more than what has left; otherwise a block of at least twice the size takes its place. A block keeps
count of the bytes that lie in it, and does not know what they are.

## Results

* `Block.le_room_reserve`: room that was called for is there.
* `Block.size_le_size_reserve`: a block is never replaced by a smaller one.
* `Block.held_decode`: the count stays right when the bytes are decoded.
-/

namespace Reconnect

/-- A block of memory that bytes are read into. -/
structure Block where
  /-- The number of bytes that it can hold. -/
  size : Nat := readCapacity
  /-- The number of bytes that have left at the front. -/
  gone : Nat := 0
  /-- The number of bytes that lie in it behind those. -/
  held : Nat := 0
deriving DecidableEq, Repr

namespace Block

/-- The room behind the bytes that it holds. -/
def room (b : Block) : Nat := b.size - (b.gone + b.held)

/-- Sees to it that there is room for `n` bytes. -/
def reserve (b : Block) (n : Nat) : Block :=
  if n ≤ b.room then b
  else if b.held + n ≤ b.size ∧ b.held ≤ b.gone then { b with gone := 0 }
  else { b with size := max (2 * b.size) (b.gone + b.held + n) }

theorem le_room_reserve (b : Block) (n : Nat) : n ≤ (b.reserve n).room := by
  unfold reserve
  split
  · assumption
  · split <;> simp only [room] <;> omega

theorem size_le_size_reserve (b : Block) (n : Nat) : b.size ≤ (b.reserve n).size := by
  unfold reserve
  split
  · exact Nat.le_refl _
  · split <;> simp only <;> omega

@[simp] theorem held_reserve (b : Block) (n : Nat) : (b.reserve n).held = b.held := by
  unfold reserve
  split
  · rfl
  · split <;> rfl

/-- `n` bytes arrive. -/
def append (b : Block) (n : Nat) : Block := { b.reserve n with held := b.held + n }

/-- `n` bytes leave at the front. -/
def drop (b : Block) (n : Nat) : Block := { b with gone := b.gone + n, held := b.held - n }

def clear (b : Block) : Block := { b with held := 0 }

@[simp] theorem held_append (b : Block) (n : Nat) : (b.append n).held = b.held + n := rfl

@[simp] theorem held_drop (b : Block) (n : Nat) : (b.drop n).held = b.held - n := rfl

/-- A length is taken off, and room for its payload is called for. -/
def announce (b : Block) (length : Nat) : Block := (b.drop Frame.headLength).reserve length

/-- The block after a call of the decoder `d`: what was read ahead or taken has left. -/
def decode (b : Block) (d : Frame.Decoder) (out : Frame.Decoded) : Block :=
  match d.expected, out.found with
  | some _, .frame payload => b.drop payload.length
  | some _, _ => b
  | none, .frame payload => (b.announce payload.length).drop payload.length
  | none, .invalid _ => b.drop Frame.headLength
  | none, .incomplete =>
    match out.decoder.expected with
    | some length => b.announce length
    | none => b

theorem held_decode {b : Block} {buffer : Bytes} (d : Frame.Decoder)
    (h : b.held = buffer.length) :
    (b.decode d (d.next buffer)).held = (d.next buffer).rest.length := by
  unfold Frame.Decoder.next
  split
  · rename_i n hn
    obtain ⟨front, rest, hp, rfl⟩ | hp := d.payload_eq_or n buffer
    · simp [decode, hn, hp, h]
    · simp [decode, hn, hp, h]
  · rename_i hn
    split
    · simp [decode, hn, h]
    · rename_i head bytes hs
      obtain ⟨rfl, hhead⟩ := Bytes.split?_eq_some_iff.mp hs
      rw [List.length_append, hhead] at h
      split
      · simp [decode, hn, h]
      · rename_i n _
        obtain ⟨front, rest, hp, rfl⟩ | hp := d.payload_eq_or n bytes
        · simp [decode, announce, hn, hp, h]
        · simp [decode, announce, hn, hp, h]

end Block

end Reconnect
