import Reconnect.Frame

/-!
# Cutting a byte string into frames

A byte string that is there as a whole is cut at its lengths, front to back, without any memory.  A
decoder that gets it in pieces finds the same frames: what lies ahead of it is decided by what it
remembers and by the bytes that it has not used up, and one of its calls takes off the first thing
that lies ahead, whatever arrives later.

## Results

* `Decoder.ahead_next`: **one call of a decoder takes the first frame off what lies ahead**, or
  finds that nothing can lie ahead.
* `Decoder.ahead_of_incomplete`: a decoder that asks for more bytes has nothing ahead of it.
-/

namespace Reconnect

theorem Bytes.split?_append {n : Nat} {bytes front rest : Bytes} (more : Bytes)
    (h : bytes.split? n = some (front, rest)) :
    Bytes.split? n (bytes ++ more) = some (front, rest ++ more) := by
  obtain ⟨rfl, hn⟩ := Bytes.split?_eq_some_iff.mp h
  exact Bytes.split?_eq_some_iff.mpr ⟨List.append_assoc .., hn⟩

/-- A number that is not too large for a signed word is read back from its four bytes. -/
theorem Bytes.toInt_toInt32_ofNat {n : Nat} (h : n < 2147483648) :
    (Bytes.toInt32 (Bytes.ofNat Frame.headLength n)).toInt = n := by
  have hbound : n < Bytes.bound Frame.headLength := Nat.lt_trans h (by decide)
  rw [Bytes.toInt32, Bytes.toNat_ofNat_of_lt hbound, UInt32.toInt32_ofNat',
    Int32.toInt_ofNat_of_lt h]

/-- The length in front of a payload can be read by whoever knows of signed words only. -/
theorem encode_eq_head_append {payload : Bytes} (h : payload.length < 2147483648) :
    ∃ head, Frame.encode payload = head ++ payload ∧ head.length = 4 ∧
      (Bytes.toInt32 head).toInt = payload.length :=
  ⟨Bytes.ofNat Frame.headLength payload.length, rfl, Bytes.length_ofNat _ _,
    Bytes.toInt_toInt32_ofNat h⟩

namespace Frame

/-- The payloads of the complete frames at the front of a byte string, and the fault of the first
length that is not allowed, if it ends there. -/
def cut (limit : Nat) (bytes : Bytes) : List Bytes × Option Fault :=
  match _head : bytes.split? headLength with
  | none => ([], none)
  | some (head, rest) =>
    match declared head.toInt32 limit with
    | .error fault => ([], some fault)
    | .ok n =>
      match _payload : rest.split? n with
      | none => ([], none)
      | some (payload, rest) => (payload :: (cut limit rest).1, (cut limit rest).2)
termination_by bytes.length
decreasing_by
  all_goals
    obtain ⟨rfl, hn⟩ := Bytes.split?_eq_some_iff.mp _payload
    obtain ⟨rfl, hh⟩ := Bytes.split?_eq_some_iff.mp _head
    simp only [List.length_append, hh, headLength]
    omega

namespace Decoder

/-- What lies ahead of a decoder that waits for a payload of `n` bytes. -/
def payloadAhead (limit n : Nat) (bytes : Bytes) : List Bytes × Option Fault :=
  match bytes.split? n with
  | none => ([], none)
  | some (payload, rest) => (payload :: (cut limit rest).1, (cut limit rest).2)

/-- What lies ahead of a decoder: the payloads in the bytes that it has not used up, and the fault
that ends them. -/
def ahead (d : Decoder) (bytes : Bytes) : List Bytes × Option Fault :=
  match d.expected with
  | some n => payloadAhead d.limit n bytes
  | none => cut d.limit bytes

end Decoder

theorem cut_eq (limit : Nat) (bytes : Bytes) : cut limit bytes =
    match bytes.split? headLength with
    | none => ([], none)
    | some (head, rest) =>
      match declared head.toInt32 limit with
      | .error fault => ([], some fault)
      | .ok n => Decoder.payloadAhead limit n rest := by
  rw [cut]
  split
  · rename_i hhead
    rw [hhead]
  · rename_i head rest hhead
    rw [hhead]
    show _ = match declared head.toInt32 limit with
      | .error fault => ([], some fault)
      | .ok n => Decoder.payloadAhead limit n rest
    split
    · rfl
    · unfold Decoder.payloadAhead
      split <;> rename_i hpayload <;> rw [hpayload]

/-- What one call of a decoder has found, in front of what lies ahead after it. -/
def Found.before (found : Found) (later : List Bytes × Option Fault) :
    List Bytes × Option Fault :=
  match found with
  | .frame payload => (payload :: later.1, later.2)
  | .incomplete => later
  | .invalid fault => ([], some fault)

namespace Decoder

theorem ahead_payload (d : Decoder) (n : Nat) (buffer more : Bytes) :
    payloadAhead d.limit n (buffer ++ more) =
      (d.payload n buffer).found.before
        ((d.payload n buffer).decoder.ahead ((d.payload n buffer).rest ++ more)) := by
  unfold payload
  cases hsplit : buffer.split? n with
  | none => rfl
  | some found =>
    obtain ⟨front, rest⟩ := found
    simp only [payloadAhead, Bytes.split?_append more hsplit]
    rfl

/-- **One call takes off the first thing that lies ahead**, whatever bytes come later. -/
theorem ahead_next (d : Decoder) (buffer more : Bytes) :
    d.ahead (buffer ++ more) =
      (d.next buffer).found.before
        ((d.next buffer).decoder.ahead ((d.next buffer).rest ++ more)) := by
  unfold next
  cases hexpected : d.expected with
  | some n =>
    rw [ahead, hexpected]
    exact d.ahead_payload n buffer more
  | none =>
    cases hsplit : buffer.split? headLength with
    | none => rfl
    | some found =>
      obtain ⟨head, rest⟩ := found
      rw [ahead, hexpected]
      simp only [cut_eq, Bytes.split?_append more hsplit]
      cases hdeclared : declared head.toInt32 d.limit with
      | error fault => rfl
      | ok n => exact d.ahead_payload n rest more

theorem ahead_of_payload_incomplete {d : Decoder} {n : Nat} {buffer : Bytes}
    (h : (d.payload n buffer).found = .incomplete) :
    (d.payload n buffer).decoder.ahead (d.payload n buffer).rest = ([], none) := by
  unfold payload at h ⊢
  cases hsplit : buffer.split? n with
  | none => simp only [ahead, payloadAhead, hsplit]
  | some found =>
    rw [hsplit] at h
    cases h

/-- A decoder that asks for more has nothing ahead of it. -/
theorem ahead_of_incomplete {d : Decoder} {buffer : Bytes}
    (h : (d.next buffer).found = .incomplete) :
    (d.next buffer).decoder.ahead (d.next buffer).rest = ([], none) := by
  unfold next at h ⊢
  cases hexpected : d.expected with
  | some n =>
    rw [hexpected] at h
    exact ahead_of_payload_incomplete h
  | none =>
    rw [hexpected] at h
    cases hsplit : buffer.split? headLength with
    | none => simp only [ahead, hexpected, cut_eq, hsplit]
    | some found =>
      obtain ⟨head, rest⟩ := found
      simp only [hsplit] at h ⊢
      cases hdeclared : declared head.toInt32 d.limit with
      | error fault =>
        rw [hdeclared] at h
        cases h
      | ok n =>
        rw [hdeclared] at h
        exact ahead_of_payload_incomplete h

theorem limit_next (d : Decoder) (buffer : Bytes) : (d.next buffer).decoder.limit = d.limit := by
  have payload (n : Nat) (bytes : Bytes) : (d.payload n bytes).decoder.limit = d.limit := by
    unfold Decoder.payload
    split <;> rfl
  unfold next
  split
  · exact payload _ _
  · split
    · rfl
    · split
      · rfl
      · exact payload _ _

end Decoder

end Frame

end Reconnect
