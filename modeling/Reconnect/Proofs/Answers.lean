import Reconnect.Proofs.Cutting
import Reconnect.Session.Response

/-!
# Reading an answer and writing it again

What a server answers is read on every connection, and written wherever a server is played.  The two
are told apart by what a reader forgives: a length of -1 for a secret that is not there, any byte
for the flag, a flag that is missing, and bytes behind it.  A writer has one way for each.

## Protocol

* The front of an answer is its version, its timeout and its session, 16 bytes.  The length of the
  secret takes four bytes, the secret as many as that says, and the flag is the first byte of what is
  left, if anything is.

## Results

* `Session.Response.decode_eq_ok_iff`: an answer is read exactly if it stands in the payload
  (`Session.Response.Stands`).
* `Session.Response.stands_encode`: what is written stands there as it was, but an answer without the
  flag cannot say that the server is read-only.
* `Session.Response.Stands.encode_eq`: what was read is written as it stood, with a length and a flag
  of one kind.
* `Session.Response.rereads`: **an answer survives being written and read exactly if the wire can
  hold its flag, and whatever was read survives, byte for byte up to the length and the flag.**
-/

namespace Reconnect.Session.Response

/-! ## Reading -/

theorem bind_eq_ok_iff {ε α β : Type} {x : Except ε α} {f : α → Except ε β} {b : β} :
    (x >>= f) = .ok b ↔ ∃ a, x = .ok a ∧ f a = .ok b := by
  cases x with
  | error fault => exact ⟨fun h => (nomatch h), fun ⟨a, ha, _⟩ => (nomatch ha)⟩
  | ok a =>
    constructor
    · intro h
      exact ⟨a, rfl, h⟩
    · rintro ⟨a', ha, h⟩
      obtain rfl := Except.ok.inj ha
      exact h

theorem take_eq_ok_iff {field : ResponseField} {n : Nat} {bytes front rest : Bytes} :
    take field n bytes = .ok (front, rest) ↔ bytes = front ++ rest ∧ front.length = n := by
  rw [← Bytes.split?_eq_some_iff, take]
  cases bytes.split? n with
  | none => simp
  | some parts => simp

/-- The bytes of a length say how long the secret is, or that there is none. -/
def Declares (length : Bytes) (secret : Secret) : Prop :=
  length.toInt32 = -1 ∧ secret = [] ∨ length.toInt32.toInt = secret.length

/-- A length that is the number of some bytes does not say that there is no secret. -/
theorem Declares.ne_null {length : Bytes} {n : Nat} (h : length.toInt32.toInt = n) :
    length.toInt32 ≠ -1 := by
  intro hnull
  rw [hnull] at h
  change -1 = (n : Int) at h
  omega

theorem takeSecret_eq_ok_iff {bytes secret rest : Bytes} :
    takeSecret bytes = .ok (secret, rest) ↔ ∃ length : Bytes, length.length = 4 ∧
      bytes = length ++ (secret ++ rest) ∧ Declares length secret := by
  simp only [takeSecret, bind_eq_ok_iff, Prod.exists, take_eq_ok_iff]
  constructor
  · rintro ⟨length, others, ⟨rfl, hfour⟩, h⟩
    refine ⟨length, hfour, ?_⟩
    -- of the negative lengths only -1 is read, and it leaves all other bytes
    split at h
    · rename_i hnull
      obtain ⟨rfl, rfl⟩ := Prod.mk.inj (Except.ok.inj h)
      exact ⟨rfl, .inl ⟨hnull, rfl⟩⟩
    · split at h
      · cases h
      · rename_i hnonneg
        obtain ⟨rfl, hlength⟩ := take_eq_ok_iff.mp h
        rw [Int32.lt_iff_toInt_lt, Int32.toInt_zero, Int.not_lt] at hnonneg
        exact ⟨rfl, .inr (by omega)⟩
  · rintro ⟨length, hfour, rfl, ⟨hnull, rfl⟩ | hlength⟩
    · refine ⟨length, rest, ⟨rfl, hfour⟩, ?_⟩
      rw [if_pos hnull]
      rfl
    · refine ⟨length, secret ++ rest, ⟨rfl, hfour⟩, ?_⟩
      have hnonneg : ¬ length.toInt32 < 0 := by
        rw [Int32.lt_iff_toInt_lt, Int32.toInt_zero]
        omega
      rw [if_neg (Declares.ne_null hlength), if_neg hnonneg]
      exact take_eq_ok_iff.mpr ⟨rfl, by omega⟩

/-- What comes before the secret's length. -/
def front (r : Response) : Bytes :=
  Bytes.ofInt32 r.protocolVersion ++ Bytes.ofInt32 r.timeoutMs ++ Bytes.ofInt64 r.sessionId

theorem length_front (r : Response) : r.front.length = 16 := by
  simp [front]

/-- An answer stands in a payload: behind its front are the bytes of a length, the secret, and a
tail whose first byte is the flag. -/
structure Stands (payload : Bytes) (r : Response) (length tail : Bytes) : Prop where
  payload_eq : payload = r.front ++ length ++ r.secret ++ tail
  four : length.length = 4
  declares : Declares length r.secret
  readOnly : r.readOnly = tail.head?.any (· != 0)
  flagged : r.flagged = !tail.isEmpty

theorem decode_eq_ok_iff {payload : Bytes} {r : Response} :
    decode payload = .ok r ↔ ∃ length tail, Stands payload r length tail := by
  simp only [decode, bind_eq_ok_iff, Prod.exists, take_eq_ok_iff, takeSecret_eq_ok_iff]
  constructor
  · rintro ⟨version, _, ⟨rfl, hversion⟩, timeout, _, ⟨rfl, htimeout⟩, session, _, ⟨rfl, hsession⟩,
      secret, tail, ⟨length, hfour, rfl, hdeclares⟩, h⟩
    obtain rfl := Except.ok.inj h
    refine ⟨length, tail, ?_, hfour, hdeclares, rfl, rfl⟩
    simp only [front, Bytes.ofInt32_toInt32 hversion, Bytes.ofInt32_toInt32 htimeout,
      Bytes.ofInt64_toInt64 hsession, List.append_assoc]
  · rintro ⟨length, tail, hpayload, hfour, hdeclares, hreadOnly, hflagged⟩
    obtain ⟨version, timeout, session, secret, readOnly, flagged⟩ := r
    dsimp only at *
    subst hreadOnly hflagged
    refine ⟨_, _, ⟨?_, Bytes.length_ofInt32 version⟩, _, _, ⟨rfl, Bytes.length_ofInt32 timeout⟩,
      _, _, ⟨rfl, Bytes.length_ofInt64 session⟩, secret, tail,
      ⟨length, hfour, rfl, hdeclares⟩, ?_⟩
    · rw [hpayload]
      simp only [front, List.append_assoc]
    · rw [Bytes.toInt32_ofInt32, Bytes.toInt32_ofInt32, Bytes.toInt64_ofInt64]
      rfl

/-! ## Writing -/

/-- A length as it is written: without a secret it is zero. -/
def plainLength (length : Bytes) : Bytes :=
  if length.toInt32 = -1 then Bytes.ofNat 4 0 else length

/-- A flag as it is written. -/
def plainFlag (flag : UInt8) : UInt8 := if flag = 0 then 0 else 1

theorem Declares.length_lt {length : Bytes} {secret : Secret} (h : Declares length secret) :
    secret.length < 2147483648 := by
  rcases h with ⟨-, rfl⟩ | hlength
  · decide
  · have := length.toInt32.toInt_lt
    omega

/-- The length of a secret that was read is written as it stood, but for -1. -/
theorem Declares.ofNat_eq {length : Bytes} {secret : Secret} (h : Declares length secret)
    (hfour : length.length = 4) : Bytes.ofNat 4 secret.length = plainLength length := by
  have hlt := h.length_lt
  rcases h with ⟨hnull, rfl⟩ | hlength
  · exact (if_pos hnull).symm
  · have hsame : Bytes.toInt32 (Bytes.ofNat 4 secret.length) = length.toInt32 := by
      rw [← Int32.toInt_inj, hlength]
      exact Bytes.toInt_toInt32_ofNat hlt
    -- four bytes are known by the number that they are read as
    rw [plainLength, if_neg (Declares.ne_null hlength), ← Bytes.ofInt32_toInt32 hfour, ← hsame,
      Bytes.ofInt32_toInt32 (Bytes.length_ofNat 4 _)]

/-- The flag as bytes: one if it is written, and none else. -/
def flagBytes (r : Response) : Bytes := if r.flagged then [if r.readOnly then 1 else 0] else []

theorem encode_eq (r : Response) :
    r.encode = r.front ++ Bytes.ofNat 4 r.secret.length ++ r.secret ++ r.flagBytes := rfl

/-- What is written stands there.  Without the flag it says that the server can write. -/
theorem stands_encode {r : Response} (h : r.secret.length < 2147483648) :
    Stands r.encode { r with readOnly := r.flagged && r.readOnly }
      (Bytes.ofNat 4 r.secret.length) r.flagBytes where
  payload_eq := r.encode_eq
  four := Bytes.length_ofNat 4 _
  declares := .inr (Bytes.toInt_toInt32_ofNat h)
  readOnly := by
    unfold flagBytes
    cases r.flagged <;> cases r.readOnly <;> rfl
  flagged := by
    unfold flagBytes
    cases r.flagged <;> rfl

theorem decode_encode {r : Response} (h : r.secret.length < 2147483648) :
    decode r.encode = .ok { r with readOnly := r.flagged && r.readOnly } :=
  decode_eq_ok_iff.mpr ⟨_, _, stands_encode h⟩

/-- The wire can hold the flag of an answer. -/
theorem writable_iff {r : Response} :
    { r with readOnly := r.flagged && r.readOnly } = r ↔ r.flagged = true ∨ r.readOnly = false := by
  obtain ⟨version, timeout, session, secret, readOnly, flagged⟩ := r
  simp only [Response.mk.injEq, true_and, and_true]
  cases flagged <;> cases readOnly <;> decide

section Stands

variable {payload length tail : Bytes} {r : Response}

theorem Stands.flagBytes_eq (h : Stands payload r length tail) :
    r.flagBytes = (tail.take 1).map plainFlag := by
  unfold flagBytes
  rw [h.flagged, h.readOnly]
  cases tail with
  | nil => rfl
  | cons flag rest =>
    by_cases hzero : flag = 0
    · subst hzero
      rfl
    · simp [plainFlag, hzero]

/-- A server that was read as one that cannot write has said so. -/
theorem Stands.writable (h : Stands payload r length tail) :
    r.flagged = true ∨ r.readOnly = false := by
  rw [h.flagged, h.readOnly]
  cases tail with
  | nil => exact .inr rfl
  | cons flag rest => exact .inl rfl

/-- **What was read is written as it stood**, with a length and a flag of one kind and nothing behind
them. -/
theorem Stands.encode_eq (h : Stands payload r length tail) :
    r.encode = r.front ++ plainLength length ++ r.secret ++ (tail.take 1).map plainFlag := by
  rw [r.encode_eq, h.declares.ofNat_eq h.four, h.flagBytes_eq]

theorem length_plainLength (h : length.length = 4) : (plainLength length).length = 4 := by
  unfold plainLength
  split
  · rfl
  · exact h

theorem Stands.take_eq (h : Stands payload r length tail) :
    payload.take r.encode.length = r.front ++ length ++ r.secret ++ tail.take 1 := by
  have hlength : r.encode.length =
      (r.front ++ length ++ r.secret).length + (tail.take 1).length := by
    simp only [h.encode_eq, List.length_append, length_plainLength h.four, h.four,
      List.length_map]
  rw [h.payload_eq, hlength, List.take_length_add_append]
  rw [List.length_take]
  exact congrArg _ (List.take_eq_take_iff.mpr (by omega))

end Stands

/-- **Answers survive the wire both ways.**
    An answer that is written and read is the same exactly if the wire holds its flag or the server
    can write; else the server can write afterwards, and all the rest is the same.  An answer that
    was read can be written and read again.  It is then written as the bytes at the start of the
    payload: behind 16 bytes of its front the length of the secret, which is zero where it was -1,
    the secret, and the flag if there was one, which is one where it was not zero. -/
theorem rereads :
    (∀ r : Response, r.secret.length < 2147483648 →
      decode r.encode = .ok { r with readOnly := r.flagged && r.readOnly } ∧
      (decode r.encode = .ok r ↔ r.flagged = true ∨ r.readOnly = false)) ∧
    ∀ (payload : Bytes) (r : Response), decode payload = .ok r →
      decode r.encode = .ok r ∧
      ∃ length tail : Bytes, payload = r.front ++ length ++ r.secret ++ tail ∧
        r.front.length = 16 ∧ length.length = 4 ∧
        payload.take r.encode.length = r.front ++ length ++ r.secret ++ tail.take 1 ∧
        r.encode = r.front ++ plainLength length ++ r.secret ++ (tail.take 1).map plainFlag := by
  refine ⟨fun r hr => ?_, fun payload r hread => ?_⟩
  · have hdecoded := decode_encode hr
    refine ⟨hdecoded, ?_⟩
    rw [hdecoded, ← writable_iff]
    exact ⟨Except.ok.inj, congrArg Except.ok⟩
  · obtain ⟨length, tail, stands⟩ := decode_eq_ok_iff.mp hread
    refine ⟨?_, length, tail, stands.payload_eq, r.length_front, stands.four, stands.take_eq,
      stands.encode_eq⟩
    rw [decode_encode stands.declares.length_lt]
    exact congrArg Except.ok (writable_iff.mpr stands.writable)

/-- A server that cannot write, of a kind that does not tell. -/
def silent : Response where
  timeoutMs := 6000
  sessionId := 43981
  secret := [1, 2, 3]
  readOnly := true

/-- An answer with no secret, a flag that is neither zero nor one, and bytes behind it. -/
def untidy : Bytes := [0, 0, 0, 0, 0, 0, 3, 232, 0, 0, 0, 0, 0, 0, 0, 9, 255, 255, 255, 255, 7, 8]

theorem rereads_untidy :
    decode silent.encode = .ok { silent with readOnly := false } ∧
    decode silent.encode ≠ .ok silent ∧
    ∃ r, decode untidy = .ok r ∧ decode r.encode = .ok r ∧
      r.encode = [0, 0, 0, 0, 0, 0, 3, 232, 0, 0, 0, 0, 0, 0, 0, 9, 0, 0, 0, 0, 1] := by
  obtain ⟨hwritten, hread⟩ := rereads
  obtain ⟨hsilent, hsame⟩ := hwritten silent (by decide)
  have huntidy : decode untidy = .ok ⟨0, 1000, 9, [], true, true⟩ := rfl
  exact ⟨hsilent, fun h => absurd (hsame.mp h) (by decide), _, huntidy,
    (hread untidy _ huntidy).1, by decide +kernel⟩

end Reconnect.Session.Response
