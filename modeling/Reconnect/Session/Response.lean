import Reconnect.Session.Request
import Reconnect.Fault

/-!
# Answers to connect requests

The server answers with the session that it grants. Old servers leave out the flag at the end that
tells whether the server is read-only; bytes behind the flag have no meaning.

## Results

* `Session.Response.length_encode`: an answer takes 20 bytes, its secret, and one more with the
  flag.
-/

namespace Reconnect.Session

/-- What the server grants. -/
structure Response where
  protocolVersion : Int32 := 0
  /-- The time after which a silent session ends; none is left if it is not positive. -/
  timeoutMs : Int32
  sessionId : Int64
  secret : Secret
  /-- The server cannot write. -/
  readOnly : Bool := false
  /-- The answer carries the read-only flag. -/
  flagged : Bool := false
deriving DecidableEq, Repr

namespace Response

/-- Takes `n` bytes of a field off the front. -/
def take (field : ResponseField) (n : Nat) (bytes : Bytes) : Except DecodeFault (Bytes × Bytes) :=
  match bytes.split? n with
  | some parts => .ok parts
  | none => .error (.unexpectedEnd field)

/-- Takes the secret behind its length off the front. The length -1 stands for no secret. -/
def takeSecret (bytes : Bytes) : Except DecodeFault (Secret × Bytes) := do
  let (head, rest) ← take .secret 4 bytes
  let length := head.toInt32
  if length = -1 then return ([], rest)
  if length < 0 then throw (.invalidLength .secret length)
  take .secret length.toInt.toNat rest

def decode (payload : Bytes) : Except DecodeFault Response := do
  let (version, rest) ← take .protocolVersion 4 payload
  let (timeout, rest) ← take .timeout 4 rest
  let (session, rest) ← take .sessionId 8 rest
  let (secret, rest) ← takeSecret rest
  return {
    protocolVersion := version.toInt32
    timeoutMs := timeout.toInt32
    sessionId := session.toInt64
    secret
    readOnly := rest.head?.any (· != 0)
    flagged := !rest.isEmpty }

/-- The answer on the wire: version, timeout, session, length of the secret, secret, and the
read-only flag if there is one. -/
def encode (r : Response) : Bytes :=
  Bytes.ofInt32 r.protocolVersion ++ Bytes.ofInt32 r.timeoutMs ++ Bytes.ofInt64 r.sessionId ++
    Bytes.ofNat 4 r.secret.length ++ r.secret ++
    (if r.flagged then [if r.readOnly then 1 else 0] else [])

theorem length_encode (r : Response) :
    r.encode.length = 20 + r.secret.length + if r.flagged then 1 else 0 := by
  cases h : r.flagged <;> simp [encode, h] <;> omega

/-- The time after which a silent session ends. -/
def negotiated (r : Response) : Nanos := Nanos.ofMillis r.timeoutMs.toInt.toNat

def describe (r : Response) : String :=
  "ConnectResponse \x7b protocol_version: " ++ toString r.protocolVersion.toInt ++
    ", timeout_ms: " ++ toString r.timeoutMs.toInt ++
    ", session_id: " ++ toString r.sessionId.toInt ++
    ", session_secret: " ++ redacted r.secret ++
    ", read_only: " ++ toString r.readOnly ++
    ", has_read_only_flag: " ++ toString r.flagged ++ " \x7d"

end Response

end Reconnect.Session
