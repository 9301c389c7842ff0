import Reconnect.Proofs.Framing
import Reconnect.Session.Request

/-!
# What a connect request says

A client writes connect requests and never reads one, so nothing on its side would notice if two of
them looked alike.  The secret has a length of its own in front of it, and the flag behind it stands
wherever the secret ends.  Here the reader is built that a server needs, and it finds nothing but
what was written.

## Protocol

* The fields up to the session are of one size, 24 bytes together.
* The length of the secret is read as a signed word, and a negative one is no length of a secret.
* The flag is one or zero.
* What stands behind the flag is left for somebody else.

## Results

* `Session.Request.read_eq_some_iff`: a request is read exactly if it was written there.
* `Session.Request.eq_of_encode_append`: bytes begin with one request at most.
* `Session.Request.encode_unambiguous`: **no request is the beginning of another, and every field
  can be read off the wire.**
-/

namespace Reconnect.Session.Request

/-! ## Reading -/

/-- Takes the secret behind its length off the front. -/
def takeSecret (bytes : Bytes) : Option (Secret × Bytes) := do
  let (length, rest) ← bytes.split? 4
  if length.toInt32.toInt < 0 then none else rest.split? length.toInt32.toInt.toNat

/-- Takes the read-only flag off the front. -/
def takeFlag : Bytes → Option (Bool × Bytes)
  | [] => none
  | flag :: rest =>
    if flag = 0 then some (false, rest) else if flag = 1 then some (true, rest) else none

/-- Reads a request off the front, and leaves what stands behind it. -/
def read (bytes : Bytes) : Option (Request × Bytes) := do
  let (version, rest) ← bytes.split? 4
  let (change, rest) ← rest.split? 8
  let (timeout, rest) ← rest.split? 4
  let (session, rest) ← rest.split? 8
  let (secret, rest) ← takeSecret rest
  let (readOnly, rest) ← takeFlag rest
  return ({
    protocolVersion := version.toInt32
    lastZxid := change.toInt64
    timeoutMs := timeout.toInt32
    sessionId := session.toInt64
    secret
    readOnly }, rest)

theorem takeSecret_eq_some_iff {bytes secret rest : Bytes} :
    takeSecret bytes = some (secret, rest) ↔
      bytes = Bytes.ofNat 4 secret.length ++ (secret ++ rest) ∧ secret.length < 2147483648 := by
  simp only [takeSecret, Option.bind_eq_bind, Option.bind_eq_some_iff, Prod.exists,
    Bytes.split?_eq_some_iff]
  constructor
  · rintro ⟨length, others, ⟨rfl, hfour⟩, h⟩
    split at h
    · cases h
    · rename_i hnonneg
      obtain ⟨rfl, hlength⟩ := Bytes.split?_eq_some_iff.mp h
      have hsame : length.toInt32.toInt = secret.length := by omega
      have hlt := length.toInt32.toInt_lt
      -- four bytes are known by the number that they are read as
      rw [Frame.eq_ofNat_of_toInt hfour hsame]
      exact ⟨rfl, by omega⟩
  · rintro ⟨rfl, hlt⟩
    have hlength : (Bytes.ofNat 4 secret.length).toInt32.toInt = secret.length :=
      Bytes.toInt_toInt32_ofNat hlt
    refine ⟨_, secret ++ rest, ⟨rfl, Bytes.length_ofNat 4 _⟩, ?_⟩
    rw [hlength, if_neg (by omega), Bytes.split?_eq_some_iff]
    exact ⟨rfl, rfl⟩

theorem takeFlag_eq_some_iff {bytes rest : Bytes} {readOnly : Bool} :
    takeFlag bytes = some (readOnly, rest) ↔
      bytes = (if readOnly then 1 else 0) :: rest := by
  cases bytes with
  | nil => simp [takeFlag]
  | cons flag others =>
    unfold takeFlag
    by_cases hzero : flag = 0
    · subst hzero
      cases readOnly <;> simp
    · by_cases hone : flag = 1
      · subst hone
        cases readOnly <;> simp
      · cases readOnly <;> simp [hzero, hone]

/-- What comes before the secret's length. -/
def front (r : Request) : Bytes :=
  Bytes.ofInt32 r.protocolVersion ++ Bytes.ofInt64 r.lastZxid ++ Bytes.ofInt32 r.timeoutMs ++
    Bytes.ofInt64 r.sessionId

theorem encode_append (r : Request) (rest : Bytes) :
    r.encode ++ rest = r.front ++ (Bytes.ofNat 4 r.secret.length ++
      (r.secret ++ ((if r.readOnly then 1 else 0) :: rest))) := by
  simp only [encode, front, List.append_assoc, List.singleton_append]

/-- **A request is read exactly if it was written there**, and the length of its secret is a signed
word. -/
theorem read_eq_some_iff {bytes rest : Bytes} {r : Request} :
    read bytes = some (r, rest) ↔
      bytes = r.encode ++ rest ∧ r.secret.length < 2147483648 := by
  rw [encode_append]
  simp only [read, Option.bind_eq_bind, Option.bind_eq_some_iff, Prod.exists,
    Bytes.split?_eq_some_iff, takeSecret_eq_some_iff, takeFlag_eq_some_iff]
  constructor
  · rintro ⟨version, _, ⟨rfl, hversion⟩, change, _, ⟨rfl, hchange⟩, timeout, _, ⟨rfl, htimeout⟩,
      session, _, ⟨rfl, hsession⟩, secret, _, ⟨rfl, hsecret⟩, readOnly, _, rfl, h⟩
    obtain ⟨rfl, rfl⟩ := Prod.mk.inj (Option.some.inj h)
    refine ⟨?_, hsecret⟩
    simp only [front, Bytes.ofInt32_toInt32 hversion, Bytes.ofInt64_toInt64 hchange,
      Bytes.ofInt32_toInt32 htimeout, Bytes.ofInt64_toInt64 hsession, List.append_assoc]
  · rintro ⟨rfl, hsecret⟩
    obtain ⟨version, change, timeout, session, secret, readOnly⟩ := r
    refine ⟨_, _, ⟨?_, Bytes.length_ofInt32 version⟩, _, _, ⟨rfl, Bytes.length_ofInt64 change⟩,
      _, _, ⟨rfl, Bytes.length_ofInt32 timeout⟩, _, _, ⟨rfl, Bytes.length_ofInt64 session⟩,
      secret, _, ⟨rfl, hsecret⟩, readOnly, rest, rfl, ?_⟩
    · simp only [front, List.append_assoc]
    · simp only [Bytes.toInt32_ofInt32, Bytes.toInt64_ofInt64]
      rfl

/-! ## Telling requests apart -/

/-- Bytes begin with one request at most. -/
theorem eq_of_encode_append {r s : Request} {rest more : Bytes}
    (hr : r.secret.length < 2147483648) (hs : s.secret.length < 2147483648)
    (h : r.encode ++ rest = s.encode ++ more) : r = s ∧ rest = more := by
  have hread : read (r.encode ++ rest) = some (r, rest) := read_eq_some_iff.mpr ⟨rfl, hr⟩
  have hread' : read (r.encode ++ rest) = some (s, more) := read_eq_some_iff.mpr ⟨h, hs⟩
  rw [hread] at hread'
  exact Prod.mk.inj (Option.some.inj hread')

/-- **Connect requests are unambiguous on the wire.**
    If the bytes of one request are the beginning of the bytes of another, or are the same, then the
    two requests are the same in every field; so it is whenever the lengths of the secrets are
    signed words.  A reader takes a request off the front of any bytes exactly if the bytes begin
    with that request as it is written, and finds behind it whatever stands there. -/
theorem encode_unambiguous :
    (∀ r s : Request, r.secret.length < 2147483648 → s.secret.length < 2147483648 →
      (r.encode <+: s.encode ↔ r = s)) ∧
    ∀ (bytes rest : Bytes) (r : Request), read bytes = some (r, rest) ↔
      bytes = r.encode ++ rest ∧ r.secret.length < 2147483648 := by
  refine ⟨?_, fun bytes rest r => read_eq_some_iff⟩
  intro r s hr hs
  constructor
  · rintro ⟨rest, h⟩
    rw [← s.encode.append_nil] at h
    exact (eq_of_encode_append hr hs h).1
  · rintro rfl
    exact List.prefix_rfl

/-- Requests whose last bytes are the same: the flag of the first is the secret of the second. -/
def bare : Request := { timeoutMs := 6000, sessionId := 7, secret := [], readOnly := true }

def short : Request := { timeoutMs := 6000, sessionId := 7, secret := [1], readOnly := true }

theorem encode_unambiguous_short :
    bare.encode.drop 28 = [1] ∧ short.encode.drop 28 = [1, 1] ∧
    ¬ bare.encode <+: short.encode ∧
    read (short.encode ++ [0, 9]) = some (short, [0, 9]) := by
  obtain ⟨happart, hread⟩ := encode_unambiguous
  have hbare : bare.secret.length < 2147483648 := by decide
  have hshort : short.secret.length < 2147483648 := by decide
  refine ⟨by decide, by decide, ?_, (hread _ _ short).mpr ⟨rfl, hshort⟩⟩
  rw [happart bare short hbare hshort]
  decide

end Reconnect.Session.Request
