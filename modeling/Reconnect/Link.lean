import Reconnect.Block
import Reconnect.Client
import Reconnect.Endpoint
import Reconnect.Liveness
import Reconnect.Outbound
import Reconnect.Settings

/-!
# Links

A link is all that a transport knows about its connection apart from the byte stream itself: how
far the connection has come, what was read and not yet decoded, what is framed and not yet written,
which requests were written in full, and the client with the requests that wait for a reply.

## Protocol

* `connect` starts over for an endpoint, `established` lets the client prime the new connection,
  and `process` gives the frames that arrive to the client. The first of them answers the connect
  request.
* `fill` frames packets from the queue as long as the gates allow it, `wrote` settles written
  bytes, and `handOver` lets written requests wait for their replies.
* `reset` gives up the connection. What was not written in full goes back to the queue, except for
  connect requests: the next connection primes its own.

An operation that can fail gives back the link as it is left, and the fault if there is one.
-/

namespace Reconnect

/-- How far a connection has come. -/
inductive Stage where
  | disconnected
  /-- An attempt is under way. -/
  | connecting
  /-- The stream is open and the connect request is not answered. -/
  | handshaking
  | ready
  /-- Shut down for good. -/
  | closed
deriving DecidableEq, Repr

/-- How far a connection has come, seen from outside. -/
inductive Phase where
  | disconnected
  | connecting
  | handshakePending
  /-- The connect request is answered, and application packets wait for authentication. -/
  | authPending
  | ready
  | closed
deriving DecidableEq, Repr

namespace Phase

/-- Bytes can flow in both directions. -/
def isConnected : Phase → Bool
  | handshakePending | authPending | ready => true
  | _ => false

def name : Phase → String
  | disconnected => "Disconnected"
  | connecting => "Connecting"
  | handshakePending => "HandshakePending"
  | authPending => "AuthPending"
  | ready => "Ready"
  | closed => "Closed"

end Phase

/-- The state of a connection apart from its byte stream. -/
structure Link (σ : Type) where
  settings : Settings
  stage : Stage := .disconnected
  /-- The session of the last answered connect request; zero before. -/
  sessionId : Int64 := 0
  liveness : Liveness := {}
  decoder : Frame.Decoder
  /-- Bytes that were read and not yet decoded. -/
  inbox : Bytes := []
  /-- The memory that the inbox lies in. -/
  block : Block := {}
  outbound : Outbound := {}
  /-- Requests that were written in full and not yet handed over. -/
  written : List Packet := []
  /-- Requests that wait for a reply, oldest first. -/
  pending : List Packet := []
  /-- The endpoint of the current or last attempt. -/
  remote : Option Endpoint := none
  /-- The own end of the open stream. -/
  localEnd : Option Endpoint := none
  control : Control := {}
  client : σ
  /-- All that could be seen from outside, in order. -/
  journal : List Event := []
deriving DecidableEq, Repr

namespace Link

variable {σ : Type}

/-- A link that was never connected. -/
def new (settings : Settings) (client : σ) : Link σ where
  settings := settings
  decoder := { limit := settings.frameLimit }
  client := client

/-- The stage, together with what the control asks for. -/
def phase (l : Link σ) : Phase :=
  if l.control.closing then .closed
  else match l.stage with
    | .disconnected => .disconnected
    | .connecting => .connecting
    | .handshaking => .handshakePending
    | .ready => if l.control.authPending then .authPending else .ready
    | .closed => .closed

/-- The link was shut down, not only asked to. -/
def isClosed (l : Link σ) : Bool := l.stage = .closed

def tick (l : Link σ) (now : Nanos) : Link σ := { l with liveness := l.liveness.tick now }

/-- Lets the holders of the control act. -/
def steer (l : Link σ) (actions : List Control.Action) : Link σ :=
  { l with control := l.control.runActions actions }

/-- A kept wake-up is used up. -/
def calm (l : Link σ) : Link σ := { l with control := { l.control with woken := false } }

/-- Takes over what the client did. -/
def absorb (l : Link σ) (r : Reaction σ) : Link σ × Option Fault :=
  ({ l with
      client := r.client
      control := l.control.runActions r.actions
      journal := l.journal ++ r.events }, r.fault)

/-! ## Coming up -/

/-- The event that a packet has failed because the connection is gone. -/
def lost (p : Packet) : Event := .completed p (.failure .peerClosed)

/-- Gives up the connection. Requests that were written in full but not handed over fail. -/
def reset (l : Link σ) : Link σ :=
  { l with
    stage := if l.stage = .closed then .closed else .disconnected
    decoder := l.decoder.reset
    inbox := []
    block := l.block.clear
    outbound := {}
    written := []
    localEnd := none
    control := { l.control with
      queue := Queue.without .handshake (l.outbound.packets ++ l.control.queue) }
    journal := l.journal ++ l.written.map lost }

/-- Starts over for an endpoint, unless the link is closed or asked to close. -/
def connect (l : Link σ) (e : Endpoint) : Link σ × Option Fault :=
  if l.phase = .closed then (l, some .closed)
  else
    ({ l.reset with
        stage := .connecting
        remote := some e
        control := l.reset.control.restart l.settings.authRequired }, none)

/-- The link is shut down for good. -/
def close (l : Link σ) : Link σ := { l.reset with stage := .closed }

/-- The stream is open. The client primes the connection. -/
def established [Client σ] (l : Link σ) (localEnd : Option Endpoint) (now : Nanos) :
    Link σ × Option Fault :=
  { l with stage := .handshaking, localEnd, liveness := (l.liveness.tick now).fresh }.absorb
    (Client.prime l.client)

/-! ## Reading -/

def makeRoom (l : Link σ) : Link σ :=
  { l with block := l.block.reserve readCapacity }

/-- How many bytes a read can bring. -/
def room (l : Link σ) : Nat := l.block.room

theorem readCapacity_le_room_makeRoom (l : Link σ) : readCapacity ≤ l.makeRoom.room :=
  l.block.le_room_reserve _

def heard (l : Link σ) (data : Bytes) : Link σ :=
  { l with
    inbox := l.inbox ++ data
    block := l.block.append data.length
    liveness := l.liveness.heard }

/-- The server has answered the connect request. -/
def accept [Client σ] (l : Link σ) (payload : Bytes) : Link σ × Option Fault :=
  match Session.Response.decode payload with
  | .error cause => (l, some (.handshake cause))
  | .ok response =>
    { l with stage := .ready, sessionId := response.sessionId }.absorb
      (Client.accept l.client response)

/-- A frame for the client. -/
def receive [Client σ] (l : Link σ) (payload : Bytes) : Link σ × Option Fault :=
  let received := Client.receive l.client l.pending payload
  { l with pending := received.2 }.absorb received.1

/-- Gives a frame to whom it is for. -/
def dispatch [Client σ] (l : Link σ) (payload : Bytes) : Link σ × Option Fault :=
  if l.stage = .handshaking then l.accept payload else l.receive payload

theorem inbox_dispatch [Client σ] (l : Link σ) (payload : Bytes) :
    (l.dispatch payload).1.inbox = l.inbox := by
  unfold dispatch accept
  split
  · split <;> rfl
  · rfl

theorem decoder_dispatch [Client σ] (l : Link σ) (payload : Bytes) :
    (l.dispatch payload).1.decoder = l.decoder := by
  unfold dispatch accept
  split
  · split <;> rfl
  · rfl

theorem block_dispatch [Client σ] (l : Link σ) (payload : Bytes) :
    (l.dispatch payload).1.block = l.block := by
  unfold dispatch accept
  split
  · split <;> rfl
  · rfl

/-- Decodes and dispatches every complete frame, up to the first fault. -/
def process [Client σ] (l : Link σ) : Link σ × Option Fault :=
  let out := l.decoder.next l.inbox
  let l' := { l with
    decoder := out.decoder
    inbox := out.rest
    block := l.block.decode l.decoder out }
  match _h : out.found with
  | .incomplete => (l', none)
  | .invalid fault => (l', some fault)
  | .frame payload =>
    let after := { l' with liveness := l.liveness.countReceived }.dispatch payload
    match after.2 with
    | some fault => (after.1, some fault)
    | none => after.1.process
termination_by l.decoder.work l.inbox
decreasing_by
  rw [inbox_dispatch, decoder_dispatch]
  exact Frame.Decoder.next_frame_lt _h

/-! ## Writing -/

def answered (l : Link σ) : Bool := l.stage = .ready

/-- What may be sent now. -/
def passes (l : Link σ) (kind : Kind) : Bool :=
  kind.passes l.answered l.control.authPending

/-- Frames packets from the queue, up to the drain limit. -/
def fill (l : Link σ) : Link σ :=
  let taken := Queue.popMany l.passes (l.settings.drainLimit - l.outbound.size)
    l.control.queue
  { l with
    control := { l.control with queue := taken.2 }
    outbound := taken.1.foldl Outbound.push l.outbound }

/-- Frames a packet behind those that are framed already, past the queue. -/
def pushAhead (l : Link σ) (p : Packet) : Link σ := { l with outbound := l.outbound.push p }

/-- Something is framed and not written. -/
def hasUnsent (l : Link σ) : Bool := !l.outbound.isEmpty

def wrote (l : Link σ) (n : Nat) : Link σ :=
  let settled := l.outbound.settle n
  { l with
    outbound := settled.1
    written := l.written ++ settled.2.filter fun p => p.kind.expectsReply
    liveness := settled.2.foldl (fun v _ => v.countSent) l.liveness.spoke }

/-- Requests that were written in full wait for their replies from now on. -/
def handOver (l : Link σ) : Link σ := { l with pending := l.pending ++ l.written, written := [] }

/-- Every request that waits for a reply fails. -/
def abandonPending (l : Link σ) : Link σ :=
  { l with pending := [], journal := l.journal ++ l.pending.map lost }

end Link

end Reconnect
