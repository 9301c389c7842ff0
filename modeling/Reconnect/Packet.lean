import Reconnect.Bytes
import Reconnect.Fault
import Reconnect.Session.Request

/-!
# Packets

A packet is what a client wants to have sent: bytes of a kind, under a transaction id, and perhaps
the ticket of somebody who waits for the outcome.
-/

namespace Reconnect

/-- What a packet is for. -/
inductive Kind where
  | handshake
  | auth
  | ping
  /-- Application traffic that gets a reply. -/
  | request
deriving DecidableEq, Repr

namespace Kind

/-- The server answers packets of this kind one by one, in order. -/
def expectsReply : Kind → Bool
  | request => true
  | _ => false

/-- Traffic on behalf of the application. -/
def servesApplication : Kind → Bool
  | ping | request => true
  | _ => false

/-- Whether a packet of this kind may leave the queue now. Only the connect request goes out before
the handshake is done, authentication follows it, and application traffic waits until no
authentication is pending. -/
def passes (answered authPending : Bool) : Kind → Bool
  | handshake => true
  | auth => answered
  | ping | request => answered && !authPending

theorem answered_of_passes {answered authPending : Bool} {k : Kind} (hk : k ≠ handshake)
    (h : k.passes answered authPending = true) : answered = true := by
  cases k with
  | handshake => exact absurd rfl hk
  | auth => exact h
  | ping | request => exact (Bool.and_eq_true _ _ ▸ h).1

/-- Application packets pass or wait together. -/
theorem passes_of_servesApplication (answered authPending : Bool) {k : Kind}
    (h : k.servesApplication = true) : k.passes answered authPending = (answered && !authPending) := by
  cases k with
  | handshake | auth => cases h
  | ping | request => rfl

def name : Kind → String
  | handshake => "Handshake"
  | auth => "Auth"
  | ping => "Ping"
  | request => "Request"

end Kind

/-- A packet on its way to the server. -/
structure Packet where
  kind : Kind
  /-- The transaction id, by which the reply is matched. -/
  xid : Int32
  body : Bytes
  /-- Under which ticket somebody waits for the outcome. -/
  ticket : Option Int := none
deriving DecidableEq, Repr

namespace Packet

/-- A connect request has no transaction id. -/
def ofHandshake (body : Bytes) : Packet := { kind := .handshake, xid := 0, body }

def ofRequest (r : Session.Request) : Packet := ofHandshake r.encode

/-- The fields by name, for logs. -/
def describe (p : Packet) : String :=
  "Packet \x7b kind: " ++ p.kind.name ++ ", xid: " ++ toString p.xid.toInt ++
    ", len: " ++ toString p.body.length ++ ", callback: " ++ toString p.ticket.isSome ++ " \x7d"

end Packet

/-- What became of a packet. -/
inductive Outcome where
  /-- The frame that answers it. -/
  | reply (frame : Bytes)
  /-- Why there will be no answer. -/
  | failure (fault : Fault)
deriving DecidableEq, Repr

end Reconnect
