import Reconnect.Bytes
import Reconnect.Fault

/-!
# Frames

On the wire a payload follows its length, a signed 32-bit integer. A decoder takes frames off the
front of a buffer that grows as bytes arrive; between two calls it remembers only the length that
it has read ahead of a payload.

## Results

* `Frame.length_encode`: a frame is four bytes longer than its payload.
* `Frame.Decoder.next_frame_lt`: taking a frame uses up buffer or the remembered length, so
  repeated decoding ends.
-/

namespace Reconnect.Frame

/-- The number of bytes in front of a payload. -/
def headLength : Nat := 4

/-- The length that a frame declares, if it lies in `0 … limit - 1`. -/
def declared (length : Int32) (limit : Nat) : Except Fault Nat :=
  if length < 0 ∨ limit ≤ length.toInt.toNat then .error (.framing length.toInt limit)
  else .ok length.toInt.toNat

/-- A payload behind its length. -/
def encode (payload : Bytes) : Bytes := Bytes.ofNat headLength payload.length ++ payload

@[simp] theorem length_encode (payload : Bytes) :
    (encode payload).length = headLength + payload.length := by
  simp [encode]

/-- What a decoder remembers: the length read ahead of a payload that is not complete. -/
structure Decoder where
  /-- Every frame is shorter than this. -/
  limit : Nat
  /-- The length of the payload that comes next, once it was read. -/
  expected : Option Nat := none
deriving DecidableEq, Repr

/-- What a decoder found at the front of the buffer. -/
inductive Found where
  | frame (payload : Bytes)
  | incomplete
  /-- The length in front of the frame is not allowed. -/
  | invalid (fault : Fault)
deriving DecidableEq, Repr

/-- The outcome of one call: what was found, what is remembered, and the bytes that are left. -/
structure Decoded where
  found : Found
  decoder : Decoder
  rest : Bytes
deriving DecidableEq, Repr

namespace Decoder

/-- Forgets a length read ahead. -/
def reset (d : Decoder) : Decoder := { d with expected := none }

/-- Takes the payload of `n` bytes whose length was read. -/
def payload (d : Decoder) (n : Nat) (buffer : Bytes) : Decoded :=
  match buffer.split? n with
  | some (front, rest) => ⟨.frame front, d.reset, rest⟩
  | none => ⟨.incomplete, { d with expected := some n }, buffer⟩

/-- Takes the next frame off the front of the buffer. A length that is not allowed is taken off
alone. -/
def next (d : Decoder) (buffer : Bytes) : Decoded :=
  match d.expected with
  | some n => d.payload n buffer
  | none =>
    match buffer.split? headLength with
    | none => ⟨.incomplete, d, buffer⟩
    | some (head, rest) =>
      match declared head.toInt32 d.limit with
      | .error fault => ⟨.invalid fault, d, rest⟩
      | .ok n => d.payload n rest

/-- The bytes and the length that a decoder still has to work on. -/
def work (d : Decoder) (buffer : Bytes) : Nat :=
  buffer.length + if d.expected.isSome then 1 else 0

theorem payload_eq_or (d : Decoder) (n : Nat) (buffer : Bytes) :
    (∃ front rest, d.payload n buffer = ⟨.frame front, d.reset, rest⟩ ∧ buffer = front ++ rest) ∨
      d.payload n buffer = ⟨.incomplete, { d with expected := some n }, buffer⟩ := by
  unfold payload
  split
  · rename_i front rest hs
    exact .inl ⟨front, rest, rfl, (Bytes.split?_eq_some_iff.mp hs).1⟩
  · exact .inr rfl

theorem payload_frame {d : Decoder} {n : Nat} {buffer front : Bytes}
    (h : (d.payload n buffer).found = .frame front) :
    (d.payload n buffer).decoder = d.reset ∧ buffer = front ++ (d.payload n buffer).rest ∧
      front.length = n := by
  simp only [payload] at h ⊢
  split at h
  · rename_i front' rest hs
    obtain ⟨rfl, hn⟩ := Bytes.split?_eq_some_iff.mp hs
    simp only [Found.frame.injEq] at h
    subst h
    simp [hn]
  · cases h

theorem next_frame_lt {d : Decoder} {buffer front : Bytes}
    (h : (d.next buffer).found = .frame front) :
    (d.next buffer).decoder.work (d.next buffer).rest < d.work buffer := by
  unfold next at h ⊢
  split at h
  · rename_i n hn
    obtain ⟨hd, hb, -⟩ := payload_frame h
    have hlen := congrArg List.length hb
    rw [List.length_append] at hlen
    simp only [hn, hd, work, reset, Option.isSome_none, Option.isSome_some, Bool.false_eq_true,
      if_false, if_true]
    omega
  · rename_i hn
    split at h
    · cases h
    · rename_i head rest hs
      obtain ⟨rfl, hh⟩ := Bytes.split?_eq_some_iff.mp hs
      split at h
      · cases h
      · rename_i n hc
        obtain ⟨hd, hb, -⟩ := payload_frame h
        have hlen := congrArg List.length hb
        rw [List.length_append] at hlen
        simp only [hn, hd, work, reset, List.length_append, Option.isSome_none, hh, headLength]
        omega

/-- Every frame at the front of the buffer, then the reason why there is no other. -/
def all (d : Decoder) (buffer : Bytes) : List Found × Decoder × Bytes :=
  let out := d.next buffer
  match _h : out.found with
  | .frame front =>
    let others := out.decoder.all out.rest
    (.frame front :: others.1, others.2)
  | found => ([found], out.decoder, out.rest)
termination_by d.work buffer
decreasing_by exact next_frame_lt _h

end Decoder

end Reconnect.Frame
