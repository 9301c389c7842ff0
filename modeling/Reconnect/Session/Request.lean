import Reconnect.Bytes
import Reconnect.Settings

/-!
# Connect requests

The first packet on every connection asks the server to open a session or to take one up again.

## Results

* `Session.Request.length_encode`: a request takes 29 bytes and its secret.
-/

namespace Reconnect.Session

/-- The secret that proves the ownership of a session. -/
abbrev Secret := Bytes

/-- The secret of a client that holds no session: sixteen zero bytes. -/
def noSecret : Secret := List.replicate 16 0

/-- The text that stands for a secret, which never shows its bytes. -/
def redacted (secret : Secret) : String :=
  "SessionSecret([redacted; " ++ toString secret.length ++ "])"

/-- The largest number of milliseconds that a request can ask for. -/
def maxTimeoutMs : Nat := UInt32.size / 2 - 1

/-- The time in milliseconds as it is asked for on the wire; a longer one is cut. -/
def timeoutMs (timeout : Nanos) : Int32 := Int32.ofNat (min timeout.millis maxTimeoutMs)

/-- What a client asks of the server when it connects. -/
structure Request where
  protocolVersion : Int32 := 0
  /-- The number of the last change that the client has seen; zero for a new session. -/
  lastZxid : Int64 := 0
  timeoutMs : Int32
  /-- The session to take up again; zero for a new one. -/
  sessionId : Int64 := 0
  secret : Secret := noSecret
  /-- A server that cannot write will do. -/
  readOnly : Bool
deriving DecidableEq, Repr

namespace Request

/-- The request for a new session. -/
def opening (timeout : Nanos) (readOnly : Bool) : Request :=
  { timeoutMs := Session.timeoutMs timeout, readOnly }

/-- The request on the wire: version, last change, timeout, session, length of the secret, secret,
read-only flag. -/
def encode (r : Request) : Bytes :=
  Bytes.ofInt32 r.protocolVersion ++ Bytes.ofInt64 r.lastZxid ++ Bytes.ofInt32 r.timeoutMs ++
    Bytes.ofInt64 r.sessionId ++ Bytes.ofNat 4 r.secret.length ++ r.secret ++
    [if r.readOnly then 1 else 0]

theorem length_encode (r : Request) : r.encode.length = 29 + r.secret.length := by
  simp [encode]
  omega

def describe (r : Request) : String :=
  "ConnectRequest \x7b protocol_version: " ++ toString r.protocolVersion.toInt ++
    ", last_zxid_seen: " ++ toString r.lastZxid.toInt ++
    ", timeout_ms: " ++ toString r.timeoutMs.toInt ++
    ", session_id: " ++ toString r.sessionId.toInt ++
    ", session_secret: " ++ redacted r.secret ++
    ", read_only: " ++ toString r.readOnly ++ " \x7d"

end Request

end Reconnect.Session
