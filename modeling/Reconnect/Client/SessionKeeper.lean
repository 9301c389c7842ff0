import Reconnect.Client
import Reconnect.Frame

/-!
# A client that keeps a session

The session keeper opens a session, takes it up again on every later connection, and gives each
reply to the request that it answers. Replies come in the order of the requests, except for pings,
notifications and authentication, which have transaction ids of their own.
-/

namespace Reconnect

/-- The header in front of every reply. -/
structure ReplyHeader where
  xid : Int32
  /-- The number of the last change on the server. -/
  zxid : Int64
  err : Int32
deriving DecidableEq, Repr

/-- Transaction ids that answer no request. -/
inductive Reserved where
  | notification
  | ping
  | auth
deriving DecidableEq, Repr

namespace Reserved

def xid : Reserved → Int32
  | notification => -1
  | ping => -2
  | auth => -4

/-- The reserved meaning of a transaction id, if it has one. -/
def ofXid? (xid : Int32) : Option Reserved :=
  if xid = -1 then some notification
  else if xid = -2 then some ping
  else if xid = -4 then some auth
  else none

end Reserved

def pingOpcode : Int32 := 11

namespace ReplyHeader

def length : Nat := 16

/-- Reads the header of a frame, if the frame is long enough. -/
def ofFrame? (frame : Bytes) : Option ReplyHeader :=
  if frame.length < length then none
  else some {
    xid := Bytes.toInt32 (frame.take 4)
    zxid := Bytes.toInt64 ((frame.drop 4).take 8)
    err := Bytes.toInt32 ((frame.drop 12).take 4) }

end ReplyHeader

/-- A client that keeps one session over many connections. -/
structure SessionKeeper where
  /-- The session timeout that is asked for. -/
  timeout : Nanos
  readOnly : Bool
  /-- The session that is held; zero for none. -/
  sessionId : Int64 := 0
  secret : Session.Secret := Session.noSecret
  /-- The last change seen on the server. -/
  lastZxid : Int64 := 0
  /-- The session timeout on the current connection. -/
  negotiated : Option Nanos := none
  /-- Pings that were answered. -/
  pings : Nat := 0
deriving DecidableEq, Repr

namespace SessionKeeper

/-- The request that opens the session or takes it up again. -/
def request (k : SessionKeeper) : Session.Request :=
  { Session.Request.opening k.timeout k.readOnly with
    sessionId := k.sessionId, secret := k.secret, lastZxid := k.lastZxid }

def prime (k : SessionKeeper) : Reaction SessionKeeper :=
  { client := k, actions := [.pushFront (.ofRequest k.request)] }

def hex (w : Int64) : String := "0x" ++ String.ofList (Nat.toDigits 16 w.toUInt64.toNat)

/-- An answer without time left means that the session is gone. -/
def accept (k : SessionKeeper) (r : Session.Response) : Reaction SessionKeeper :=
  if r.timeoutMs ≤ 0 then
    { client := { k with sessionId := 0, secret := Session.noSecret }
      fault := some (.client ("session " ++ hex k.sessionId ++ " expired")) }
  else
    { client := { k with
        sessionId := r.sessionId, secret := r.secret, negotiated := some r.negotiated }
      actions := [.prime] }

/-- Gives a frame to the request that has waited longest. -/
def answer (k : SessionKeeper) (xid : Int32) (frame : Bytes) :
    List Packet → Reaction SessionKeeper × List Packet
  | [] =>
    let words := "reply xid " ++ toString xid.toInt ++ " without a pending request"
    ({ client := k, fault := some (.client words) }, [])
  | p :: pending =>
    if p.xid = xid then ({ client := k, events := [.completed p (.reply frame)] }, pending)
    else
      let early := "reply xid " ++ toString xid.toInt ++ " out of order"
      let words := "expected reply xid " ++ toString p.xid.toInt ++ ", got " ++ toString xid.toInt
      ({ client := k
         events := [.completed p (.failure (.client early))]
         fault := some (.client words) }, pending)

/-- Takes note of the last change, then does what the transaction id asks for. -/
def receive (k : SessionKeeper) (pending : List Packet) (frame : Bytes) :
    Reaction SessionKeeper × List Packet :=
  match ReplyHeader.ofFrame? frame with
  | none =>
    let words := "truncated reply header (" ++ toString frame.length ++ " bytes)"
    ({ client := k, fault := some (.client words) }, pending)
  | some header =>
    let k := if 0 < header.zxid then { k with lastZxid := header.zxid } else k
    match Reserved.ofXid? header.xid with
    | some .notification => ({ client := k }, pending)
    | some .ping => ({ client := { k with pings := k.pings + 1 } }, pending)
    | some .auth => ({ client := k, actions := [.endAuth] }, pending)
    | none => k.answer header.xid frame pending

def pingPacket : Packet where
  kind := .ping
  xid := Reserved.ping.xid
  body := Bytes.ofInt32 Reserved.ping.xid ++ Bytes.ofInt32 pingOpcode

/-- The connection is gone; the session stays. -/
def disconnected (k : SessionKeeper) : SessionKeeper := { k with negotiated := none }

instance : Client SessionKeeper where
  prime := prime
  accept := accept
  receive := receive

end SessionKeeper

end Reconnect
