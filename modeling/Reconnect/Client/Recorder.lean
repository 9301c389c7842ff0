import Reconnect.Client

/-!
# A client that records

The recorder shows every call that is made to it as an event, and can be told to give up at a given
call. A frame that starts with the byte `ff` makes it give up, one that starts with `ee` answers
nothing, and every other frame answers the packet that has waited longest.
-/

namespace Reconnect

/-- A client that shows what it is called for. -/
structure Recorder where
  /-- The connect request that it primes a connection with. -/
  request : Session.Request
  /-- What it queues behind the connect request. -/
  primePackets : List Packet := []
  /-- Gives up when a connection is up. -/
  failPrime : Bool := false
  /-- Gives up when the server has answered. -/
  failAccept : Bool := false
deriving DecidableEq, Repr

namespace Recorder

/-- Queues the connect request in front and the other packets behind. -/
def prime (r : Recorder) : Reaction Recorder :=
  if r.failPrime then
    { client := r, events := [.primed], fault := some (.client "prime failed") }
  else
    { client := r
      actions := .pushFront (.ofRequest r.request) :: r.primePackets.map .pushBack
      events := [.primed] }

def accept (r : Recorder) (response : Session.Response) : Reaction Recorder where
  client := r
  events := [.accepted response]
  fault := if r.failAccept then some (.client "connected rejected") else none

/-- Gives a frame to the packet that has waited longest, unless its first byte says otherwise. -/
def receive (r : Recorder) (pending : List Packet) (frame : Bytes) :
    Reaction Recorder × List Packet :=
  match frame.head?, pending with
  | some 0xff, _ => ({ client := r, fault := some (.client "frame rejected") }, pending)
  | some 0xee, _ => ({ client := r, events := [.pushed frame] }, pending)
  | _, [] => ({ client := r, fault := some (.client "reply without a pending request") }, [])
  | _, p :: rest =>
    ({ client := r, events := [.replied p.xid frame, .completed p (.reply frame)] }, rest)

instance : Client Recorder where
  prime := prime
  accept := accept
  receive := receive

end Recorder

end Reconnect
