import Mathlib.Tactic.SplitIfs
import Reconnect.Proofs.Answers

/-!
# Which field is to blame

A payload that is no answer to a connect request is refused with the field that is to blame, and so
it matters which of its fields the payload ends in.  All fields but the secret are of one size.  The
length of the secret comes from the server: it can be negative, and it can be longer than all that
was sent.

## Protocol

* The fields end behind 4, 8 and 16 bytes, and the secret behind 20 bytes and as many more as the
  length at the 16th byte says.  The byte behind the secret is the flag.
* A length of -1 stands for no secret; a length below -1 is refused as it stands.

## Results

* `Session.Response.decode_eq`: the verdict on a payload, told by its number of bytes and by the
  length that it declares.
* `Session.Response.decode_eq_iff`: a payload gets the verdict that is due to it.
* `Session.Response.decode_take_append`: what stands behind the flag has no effect.
* `Session.Response.decode_take_encode`: an answer that was cut off is refused with the first field
  that is cut.
* `Session.Response.blames_exactly`: **each verdict is given for exactly the payloads that it is
  due to**.
-/

namespace Reconnect.Session.Response

/-! ## Fields in their places -/

/-- The length that a payload declares for its secret. -/
def secretLength (payload : Bytes) : Int32 := Bytes.toInt32 ((payload.drop 16).take 4)

/-- Where the secret of a payload ends. -/
def secretEnd (payload : Bytes) : Nat := 20 + (secretLength payload).toInt.toNat

theorem secretEnd_eq (payload : Bytes) :
    secretEnd payload = 20 + (secretLength payload).toInt.toNat := rfl

/-- The answer whose fields are the bytes at their places in a payload. -/
def standing (payload : Bytes) : Response where
  protocolVersion := Bytes.toInt32 (payload.take 4)
  timeoutMs := Bytes.toInt32 ((payload.drop 4).take 4)
  sessionId := Bytes.toInt64 ((payload.drop 8).take 8)
  secret := (payload.drop 20).take (secretLength payload).toInt.toNat
  readOnly := payload[secretEnd payload]?.any (· != 0)
  flagged := decide (secretEnd payload < payload.length)

/-! ## Field by field -/

theorem take_eq (field : ResponseField) (n : Nat) (bytes : Bytes) :
    take field n bytes =
      if bytes.length < n then .error (.unexpectedEnd field)
      else .ok (bytes.take n, bytes.drop n) := by
  unfold take
  cases hsplit : bytes.split? n with
  | none => rw [if_pos (Bytes.split?_eq_none_iff.mp hsplit)]
  | some parts =>
    obtain ⟨front, rest⟩ := parts
    obtain ⟨rfl, rfl⟩ := Bytes.split?_eq_some_iff.mp hsplit
    have hlong : ¬ (front ++ rest).length < front.length := by
      rw [List.length_append]
      omega
    rw [if_neg hlong, List.take_left, List.drop_left]

/-- A reader that begins with a field gives up at that field or goes on behind it. -/
theorem take_bind {α : Type} (field : ResponseField) (n : Nat) (bytes : Bytes)
    (f : Bytes × Bytes → Except DecodeFault α) :
    (take field n bytes >>= f) =
      if bytes.length < n then .error (.unexpectedEnd field)
      else f (bytes.take n, bytes.drop n) := by
  rw [take_eq]
  split <;> rfl

/-- The secret behind its length, whatever the length is. -/
theorem takeSecret_eq (bytes : Bytes) (length : Int32)
    (hlength : Bytes.toInt32 (bytes.take 4) = length) :
    takeSecret bytes =
      if bytes.length < 4 then .error (.unexpectedEnd .secret)
      else if length.toInt < -1 then .error (.invalidLength .secret length)
      else if bytes.length < 4 + length.toInt.toNat then .error (.unexpectedEnd .secret)
      else .ok ((bytes.drop 4).take length.toInt.toNat,
        bytes.drop (4 + length.toInt.toNat)) := by
  unfold takeSecret
  rw [take_bind]
  refine ite_congr rfl (fun _ => rfl) fun hshort => ?_
  simp only [hlength]
  have hnull : length = -1 ↔ length.toInt = -1 := Int32.toInt_inj.symm
  have hneg : length < 0 ↔ length.toInt < 0 := Int32.lt_iff_toInt_lt
  by_cases hone : length.toInt = -1
  · have hzero : length.toInt.toNat = 0 := by omega
    rw [if_pos (hnull.mpr hone), if_neg (by omega), hzero, if_neg hshort, List.take_zero]
    rfl
  · rw [if_neg (mt hnull.mp hone)]
    by_cases hbelow : length.toInt < 0
    · rw [if_pos (hneg.mpr hbelow), if_pos (by omega)]
      rfl
    · rw [if_neg (mt hneg.mp hbelow), if_neg (by omega), take_eq, List.length_drop, List.drop_drop]
      exact ite_congr (propext (by omega)) (fun _ => rfl) fun _ => rfl

theorem takeSecret_bind {α : Type} (bytes : Bytes) (length : Int32)
    (hlength : Bytes.toInt32 (bytes.take 4) = length)
    (f : Secret × Bytes → Except DecodeFault α) :
    (takeSecret bytes >>= f) =
      if bytes.length < 4 then .error (.unexpectedEnd .secret)
      else if length.toInt < -1 then .error (.invalidLength .secret length)
      else if bytes.length < 4 + length.toInt.toNat then .error (.unexpectedEnd .secret)
      else f ((bytes.drop 4).take length.toInt.toNat, bytes.drop (4 + length.toInt.toNat)) := by
  rw [takeSecret_eq bytes length hlength]
  split
  · rfl
  split
  · rfl
  split <;> rfl

/-- The flag is the first byte of what is left behind the secret. -/
theorem standing_eq (payload : Bytes) :
    standing payload = {
      protocolVersion := Bytes.toInt32 (payload.take 4)
      timeoutMs := Bytes.toInt32 ((payload.drop 4).take 4)
      sessionId := Bytes.toInt64 ((payload.drop 8).take 8)
      secret := (payload.drop 20).take (secretLength payload).toInt.toNat
      readOnly := (payload.drop (secretEnd payload)).head?.any (· != 0)
      flagged := !(payload.drop (secretEnd payload)).isEmpty } := by
  have hflag : decide (secretEnd payload < payload.length) =
      !(payload.drop (secretEnd payload)).isEmpty := by
    rw [Bool.eq_iff_iff]
    simp
  simp only [standing, hflag, List.head?_drop]

/-- **The verdict on a payload**, by the number of its bytes and the length that it declares. -/
theorem decode_eq (payload : Bytes) :
    decode payload =
      if payload.length < 4 then .error (.unexpectedEnd .protocolVersion)
      else if payload.length < 8 then .error (.unexpectedEnd .timeout)
      else if payload.length < 16 then .error (.unexpectedEnd .sessionId)
      else if payload.length < 20 then .error (.unexpectedEnd .secret)
      else if (secretLength payload).toInt < -1 then
        .error (.invalidLength .secret (secretLength payload))
      else if payload.length < secretEnd payload then .error (.unexpectedEnd .secret)
      else .ok (standing payload) := by
  unfold decode
  rw [take_bind]
  refine ite_congr rfl (fun _ => rfl) fun hversion => ?_
  dsimp only
  rw [take_bind, List.length_drop, List.drop_drop]
  refine ite_congr (propext (by omega)) (fun _ => rfl) fun htimeout => ?_
  dsimp only
  rw [take_bind, List.length_drop, List.drop_drop]
  refine ite_congr (propext (by omega)) (fun _ => rfl) fun hsession => ?_
  have hend : 16 + (4 + (secretLength payload).toInt.toNat) = secretEnd payload := by
    unfold secretEnd
    omega
  change (takeSecret (payload.drop 16) >>= _) = _
  rw [takeSecret_bind _ (secretLength payload) rfl, List.length_drop]
  refine ite_congr (propext (by omega)) (fun _ => rfl) fun hlength => ?_
  refine ite_congr rfl (fun _ => rfl) fun hallowed => ?_
  refine ite_congr (propext (by omega)) (fun _ => rfl) fun hsecret => ?_
  rw [List.drop_drop, List.drop_drop, hend, standing_eq]
  rfl

/-! ## The verdicts -/

/-- The verdict that is due to a payload. -/
inductive Due (payload : Bytes) : Except DecodeFault Response → Prop where
  | version : payload.length < 4 → Due payload (.error (.unexpectedEnd .protocolVersion))
  | timeout : 4 ≤ payload.length → payload.length < 8 →
    Due payload (.error (.unexpectedEnd .timeout))
  | session : 8 ≤ payload.length → payload.length < 16 →
    Due payload (.error (.unexpectedEnd .sessionId))
  /-- The payload ends in the length of the secret. -/
  | secretLength : 16 ≤ payload.length → payload.length < 20 →
    Due payload (.error (.unexpectedEnd .secret))
  /-- The length is refused as it stands. -/
  | invalid : 20 ≤ payload.length → (secretLength payload).toInt < -1 →
    Due payload (.error (.invalidLength .secret (secretLength payload)))
  /-- The payload ends in the secret. -/
  | secret : 20 ≤ payload.length → 0 ≤ (secretLength payload).toInt →
    payload.length < 20 + (secretLength payload).toInt →
    Due payload (.error (.unexpectedEnd .secret))
  | read : 20 ≤ payload.length → -1 ≤ (secretLength payload).toInt →
    20 + max (secretLength payload).toInt 0 ≤ payload.length →
    Due payload (.ok (standing payload))

/-- **A payload gets the verdict that is due to it.** -/
theorem decode_eq_iff {payload : Bytes} {verdict : Except DecodeFault Response} :
    decode payload = verdict ↔ Due payload verdict := by
  have hend := secretEnd_eq payload
  rw [decode_eq]
  constructor
  · rintro rfl
    split_ifs with hversion htimeout hsession hlength hinvalid hsecret
    · exact .version hversion
    · exact .timeout (by omega) htimeout
    · exact .session (by omega) hsession
    · exact .secretLength (by omega) hlength
    · exact .invalid (by omega) hinvalid
    · exact .secret (by omega) (by omega) (by omega)
    · exact .read (by omega) (by omega) (by omega)
  · intro due
    cases due with
    | version h => rw [if_pos h]
    | timeout hle hlt => rw [if_neg (by omega), if_pos hlt]
    | session hle hlt => rw [if_neg (by omega), if_neg (by omega), if_pos hlt]
    | secretLength hle hlt =>
      rw [if_neg (by omega), if_neg (by omega), if_neg (by omega), if_pos hlt]
    | invalid hle hinvalid =>
      rw [if_neg (by omega), if_neg (by omega), if_neg (by omega), if_neg (by omega),
        if_pos hinvalid]
    | secret hle hnonneg hlt =>
      rw [if_neg (by omega), if_neg (by omega), if_neg (by omega), if_neg (by omega),
        if_neg (by omega), if_pos (by omega)]
    | read hle hallowed hlong =>
      rw [if_neg (by omega), if_neg (by omega), if_neg (by omega), if_neg (by omega),
        if_neg (by omega), if_neg (by omega)]

/-! ## What has an effect -/

/-- Bytes in the front part of a byte string. -/
theorem take_drop_append {front : Bytes} {i n : Nat} (h : i + n ≤ front.length) (tail : Bytes) :
    ((front ++ tail).drop i).take n = (front.drop i).take n := by
  have hlong : n ≤ (front.drop i).length := by
    rw [List.length_drop]
    omega
  rw [List.drop_append_of_le_length (by omega), List.take_append_of_le_length hlong]

theorem secretLength_append {front : Bytes} (h : 20 ≤ front.length) (tail : Bytes) :
    secretLength (front ++ tail) = secretLength front := by
  rw [secretLength, take_drop_append (by omega), secretLength]

theorem secretEnd_append {front : Bytes} (h : 20 ≤ front.length) (tail : Bytes) :
    secretEnd (front ++ tail) = secretEnd front := by
  rw [secretEnd, secretLength_append h, secretEnd]

/-- A payload that has its flag is the same answer with anything behind it. -/
theorem standing_append {front : Bytes} (h : secretEnd front < front.length) (tail : Bytes) :
    standing (front ++ tail) = standing front := by
  have hend := secretEnd_eq front
  have hfields : 20 ≤ front.length := by omega
  have hlong : secretEnd front < (front ++ tail).length := by
    rw [List.length_append]
    omega
  simp only [standing, secretLength_append hfields, secretEnd_append hfields, Response.mk.injEq]
  refine ⟨?_, ?_, ?_, ?_, ?_, ?_⟩
  · rw [List.take_append_of_le_length (by omega)]
  · rw [take_drop_append (by omega)]
  · rw [take_drop_append (by omega)]
  · rw [take_drop_append (by omega)]
  · rw [List.getElem?_append_left h]
  · rw [decide_eq_true hlong, decide_eq_true h]

/-- A payload that has its flag is refused for a negative length only. -/
theorem decode_of_flag {payload : Bytes} (h : secretEnd payload < payload.length) :
    decode payload =
      if (secretLength payload).toInt < -1 then
        .error (.invalidLength .secret (secretLength payload))
      else .ok (standing payload) := by
  have hend := secretEnd_eq payload
  rw [decode_eq, if_neg (by omega), if_neg (by omega), if_neg (by omega), if_neg (by omega)]
  exact ite_congr rfl (fun _ => rfl) fun _ => if_neg (by omega)

theorem decode_append {front : Bytes} (h : secretEnd front < front.length) (tail : Bytes) :
    decode (front ++ tail) = decode front := by
  have hend := secretEnd_eq front
  have hfields : 20 ≤ front.length := by omega
  have hlong : secretEnd (front ++ tail) < (front ++ tail).length := by
    rw [secretEnd_append hfields, List.length_append]
    omega
  rw [decode_of_flag hlong, decode_of_flag h, secretLength_append hfields, standing_append h]

/-- **What stands behind the flag has no effect.** -/
theorem decode_take_append {payload : Bytes} (h : secretEnd payload < payload.length)
    (more : Bytes) : decode (payload.take (secretEnd payload + 1) ++ more) = decode payload := by
  have hend := secretEnd_eq payload
  have hlength : (payload.take (secretEnd payload + 1)).length = secretEnd payload + 1 := by
    rw [List.length_take]
    omega
  have hsame : secretEnd
      (payload.take (secretEnd payload + 1) ++ payload.drop (secretEnd payload + 1)) =
        secretEnd (payload.take (secretEnd payload + 1)) := secretEnd_append (by omega) _
  rw [List.take_append_drop] at hsame
  have hflag : secretEnd (payload.take (secretEnd payload + 1)) <
      (payload.take (secretEnd payload + 1)).length := by omega
  have hwhole := decode_append hflag (payload.drop (secretEnd payload + 1))
  rw [List.take_append_drop] at hwhole
  rw [decode_append hflag, hwhole]

/-! ## Answers that are cut off -/

/-- The fields of an answer that must be there, each with the number of bytes that it ends
behind. -/
def fieldEnds (r : Response) : List (ResponseField × Nat) :=
  [(.protocolVersion, 4), (.timeout, 8), (.sessionId, 16), (.secret, 20 + r.secret.length)]

/-- The first field that the first `n` bytes of an answer do not hold. -/
def firstCut (r : Response) (n : Nat) : Option ResponseField :=
  (r.fieldEnds.find? fun field => n < field.2).map (·.1)

theorem firstCut_eq (r : Response) (n : Nat) :
    r.firstCut n =
      if n < 4 then some .protocolVersion
      else if n < 8 then some .timeout
      else if n < 16 then some .sessionId
      else if n < 20 + r.secret.length then some .secret
      else none := by
  simp only [firstCut, fieldEnds, List.find?_cons, List.find?_nil]
  by_cases hversion : n < 4
  · simp only [hversion, decide_true, Option.map_some, if_true]
  by_cases htimeout : n < 8
  · simp only [hversion, htimeout, decide_true, decide_false, Option.map_some, if_true, if_false]
  by_cases hsession : n < 16
  · simp only [hversion, htimeout, hsession, decide_true, decide_false, Option.map_some, if_true,
      if_false]
  by_cases hsecret : n < 20 + r.secret.length
  · simp only [hversion, htimeout, hsession, hsecret, decide_true, decide_false, Option.map_some,
      if_true, if_false]
  · simp only [hversion, htimeout, hsession, hsecret, decide_false, Option.map_none, if_false]

/-- Nothing is cut but the flag. -/
theorem firstCut_eq_none_iff {r : Response} {n : Nat} (hflag : r.flagged = true)
    (hn : n < r.encode.length) : r.firstCut n = none ↔ n + 1 = r.encode.length := by
  rw [r.length_encode, if_pos hflag] at hn ⊢
  rw [firstCut_eq]
  split_ifs <;> simp only [false_iff, true_iff] <;> omega

theorem secretLength_take_encode {r : Response} {n : Nat} (hr : r.secret.length < 2147483648)
    (hn : 20 ≤ n) : (secretLength (r.encode.take n)).toInt = r.secret.length := by
  have hfront : (r.front ++ Bytes.ofNat 4 r.secret.length).length = 20 := by
    rw [List.length_append, length_front, Bytes.length_ofNat]
  have hword : ((r.front ++ Bytes.ofNat 4 r.secret.length).drop 16).take 4 =
      Bytes.ofNat 4 r.secret.length := by
    rw [List.drop_left' r.length_front]
    exact List.take_of_length_le (Nat.le_of_eq (Bytes.length_ofNat 4 _))
  rw [r.encode_eq, List.append_assoc, List.take_append, hfront, List.take_of_length_le (by omega),
    secretLength_append (by omega), secretLength, hword]
  exact Bytes.toInt_toInt32_ofNat hr

/-- An answer without its flag, as a server writes it that does not tell whether it can write. -/
theorem take_encode_eq (r : Response) :
    r.encode.take (20 + r.secret.length) =
      encode { r with readOnly := false, flagged := false } := by
  have hfields : (r.front ++ Bytes.ofNat 4 r.secret.length ++ r.secret).length =
      20 + r.secret.length := by
    rw [List.length_append, List.length_append, length_front, Bytes.length_ofNat]
  rw [r.encode_eq, List.take_left' hfields, encode_eq]
  exact (List.append_nil _).symm

/-- **An answer that was cut off is refused with the first field that is cut**, and if only its flag
is, it is read as one that has none. -/
theorem decode_take_encode {r : Response} {n : Nat} (hr : r.secret.length < 2147483648)
    (hflag : r.flagged = true) (hn : n < r.encode.length) :
    decode (r.encode.take n) =
      match r.firstCut n with
      | some field => .error (.unexpectedEnd field)
      | none => .ok { r with readOnly := false, flagged := false } := by
  have hlength : (r.encode.take n).length = n := List.length_take_of_le (Nat.le_of_lt hn)
  rw [r.length_encode, if_pos hflag] at hn
  rw [firstCut_eq]
  -- with nothing but the flag cut off, the bytes are another answer in full
  by_cases hwhole : n = 20 + r.secret.length
  · subst hwhole
    rw [if_neg (by omega), if_neg (by omega), if_neg (by omega), if_neg (by omega), take_encode_eq]
    exact decode_encode (r := { r with readOnly := false, flagged := false }) hr
  rw [decode_eq, hlength]
  by_cases hversion : n < 4
  · rw [if_pos hversion, if_pos hversion]
  rw [if_neg hversion, if_neg hversion]
  by_cases htimeout : n < 8
  · rw [if_pos htimeout, if_pos htimeout]
  rw [if_neg htimeout, if_neg htimeout]
  by_cases hsession : n < 16
  · rw [if_pos hsession, if_pos hsession]
  have hsecret : n < 20 + r.secret.length := by omega
  rw [if_neg hsession, if_neg hsession, if_pos hsecret]
  by_cases hfields : n < 20
  · rw [if_pos hfields]
  have hdeclared := secretLength_take_encode (n := n) hr (by omega)
  have hend : secretEnd (r.encode.take n) = 20 + r.secret.length := by
    rw [secretEnd, hdeclared, Int.toNat_natCast]
  rw [if_neg hfields, if_neg (by omega), if_pos (by omega)]

/-- **A payload is read exactly if it is an answer, and else the right field is blamed.**
    Each verdict is given for exactly the payloads that it is due to; whatever the length of the
    secret, no other byte is read than those that are there.  What stands behind the flag has no
    effect.  So an answer with a flag that was cut off is refused with the first field that is cut,
    and if nothing but its flag is, it is read as an answer that has none. -/
theorem blames_exactly :
    (∀ (payload : Bytes) (verdict : Except DecodeFault Response),
      decode payload = verdict ↔ Due payload verdict) ∧
    (∀ payload : Bytes, secretEnd payload < payload.length → ∀ more : Bytes,
      decode (payload.take (secretEnd payload + 1) ++ more) = decode payload) ∧
    ∀ (r : Response) (n : Nat), r.secret.length < 2147483648 → r.flagged = true →
      n < r.encode.length →
      (∀ field, r.firstCut n = some field →
        decode (r.encode.take n) = .error (.unexpectedEnd field)) ∧
      (r.firstCut n = none ↔ n + 1 = r.encode.length) ∧
      (n + 1 = r.encode.length →
        decode (r.encode.take n) = .ok { r with readOnly := false, flagged := false }) := by
  refine ⟨fun payload verdict => decode_eq_iff, fun payload h more => decode_take_append h more,
    fun r n hr hflag hn => ?_⟩
  have hdecoded := decode_take_encode hr hflag hn
  have hnone := firstCut_eq_none_iff hflag hn
  refine ⟨fun field hfield => ?_, hnone, fun hlast => ?_⟩
  · rw [hdecoded, hfield]
  · rw [hdecoded, hnone.mpr hlast]

/-- An answer that declares a secret of -5 bytes. -/
def negative : Bytes := [0, 0, 0, 0, 0, 0, 3, 232, 0, 0, 0, 0, 0, 0, 0, 1, 255, 255, 255, 251]

/-- An answer with all that an answer can have. -/
def complete : Response where
  timeoutMs := 6000
  sessionId := 43981
  secret := [1, 2, 3]
  readOnly := true
  flagged := true

theorem blames_exactly_complete :
    decode negative = .error (.invalidLength .secret (-5)) ∧
    complete.encode.length = 24 ∧
    decode (complete.encode.take 22) = .error (.unexpectedEnd .secret) ∧
    decode (complete.encode.take 23) =
      .ok { complete with readOnly := false, flagged := false } ∧
    decode (complete.encode.take 24 ++ [7, 7]) = .ok complete := by
  obtain ⟨hverdict, hbehind, hcut⟩ := blames_exactly
  have hlength : complete.encode.length = 24 := rfl
  have hread : decode complete.encode = .ok complete := decode_encode (by decide)
  refine ⟨(hverdict _ _).mpr (.invalid (by decide) (by decide)), hlength, ?_, ?_, ?_⟩
  · exact (hcut complete 22 (by decide) rfl (by decide)).1 .secret (by decide)
  · exact (hcut complete 23 (by decide) rfl (by decide)).2.2 (by decide)
  · rw [← hread]
    exact hbehind complete.encode (by decide) [7, 7]

end Reconnect.Session.Response
