import Reconnect.Control
import Reconnect.Session.Response

/-!
# The client of a transport

A transport carries frames; what they mean is known to its client. The transport calls the client
when a connection is up, when the server has answered the connect request, and for every frame after
that. A client answers with a new state of its own and with actions on the transport's control.
-/

namespace Reconnect

/-- What can be seen of a transport from outside while it works. -/
inductive Event where
  /-- A packet has met its outcome. -/
  | completed (packet : Packet) (outcome : Outcome)
  | primed
  | accepted (response : Session.Response)
  /-- A frame that answers no packet. -/
  | pushed (frame : Bytes)
  /-- A frame that answers the packet with this transaction id. -/
  | replied (xid : Int32) (frame : Bytes)
deriving DecidableEq, Repr

/-- How a client answers a call. -/
structure Reaction (σ : Type) where
  client : σ
  /-- What it does to the control of the transport, in order. -/
  actions : List Control.Action := []
  /-- What can be seen of the call from outside, in order. -/
  events : List Event := []
  /-- Why the client gives up on the connection, if it does. -/
  fault : Option Fault := none

/-- The calls that a transport makes to its client. -/
class Client (σ : Type) where
  /-- A connection is up: queue the connect request. -/
  prime : σ → Reaction σ
  accept : σ → Session.Response → Reaction σ
  /-- A frame has arrived; the packets that wait for a reply, oldest first, are handed over and
  handed back. -/
  receive : σ → List Packet → Bytes → Reaction σ × List Packet

end Reconnect
