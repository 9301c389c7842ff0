import Reconnect.Transport.Polling

/-!
# Wires

A wire joins a transport to a server by one channel in each direction. A channel holds a bounded
number of bytes: a write moves as many as there is room for, and what was written stays readable
after the writer has gone.

## Results

* `Channel.read_append`, `Channel.length_write_le`: no byte is lost or reordered, and no channel
  holds more than its capacity.
-/

namespace Reconnect.Simulation

/-- One direction of a wire. -/
structure Channel where
  capacity : Nat
  /-- Bytes that were written and not yet read. -/
  held : Bytes := []
deriving DecidableEq, Repr

namespace Channel

def room (c : Channel) : Nat := c.capacity - c.held.length

/-- Takes as many of the bytes as there is room for. -/
def write (c : Channel) (data : Bytes) : Nat × Channel :=
  (min c.room data.length, { c with held := c.held ++ data.take c.room })

def read (c : Channel) (n : Nat) : Bytes × Channel :=
  (c.held.take n, { c with held := c.held.drop n })

theorem read_append (c : Channel) (n : Nat) : (c.read n).1 ++ (c.read n).2.held = c.held :=
  List.take_append_drop n c.held

theorem length_write_le {c : Channel} (data : Bytes) (h : c.held.length ≤ c.capacity) :
    (c.write data).2.held.length ≤ c.capacity := by
  simp only [write, room, List.length_append, List.length_take]
  omega

end Channel

/-- A connection between a transport and a server. -/
structure Wire where
  toServer : Channel
  toClient : Channel
  serverGone : Bool := false
  /-- A flush never completes. -/
  stuckFlush : Bool := false
deriving DecidableEq, Repr

namespace Wire

/-- A new wire whose channels hold `capacity` bytes each. -/
def new (capacity : Nat) (stuckFlush : Bool) : Wire where
  toServer := { capacity }
  toClient := { capacity }
  stuckFlush := stuckFlush

/-- Something can be read: bytes, or the end of the stream. -/
def readable (w : Wire) : Bool := !w.toClient.held.isEmpty || w.serverGone

def receive (w : Wire) (room : Nat) : Bytes × Wire :=
  let taken := w.toClient.read room
  (taken.1, { w with toClient := taken.2 })

/-- What comes of writing, if the stream can say it at once. -/
def transmit (w : Wire) (data : Bytes) : Option (Except IoFault Nat × Wire) :=
  if w.serverGone then some (.error (.plain .brokenPipe), w)
  else if w.toServer.room = 0 then none
  else
    let moved := w.toServer.write data
    some (.ok moved.1, { w with toServer := moved.2 })

end Wire

/-- Streams over a wire: what they report at once, if they have something to report. -/
class Reporting (α : Type) extends Backend α where
  report : Wire → (room : Nat) → Send → Option (α × Wire)

/-- Bytes to read come first, then what there is to send. -/
def streamingReport (w : Wire) (room : Nat) (send : Send) : Option (Streaming × Wire) :=
  if w.readable then some (.received (w.receive room).1, (w.receive room).2)
  else match send with
    | .nothing => none
    | .flush => if w.stuckFlush then none else some (.flushed, w)
    | .bytes chunk =>
      match w.transmit chunk with
      | none => none
      | some (.error fault, w) => some (.failed fault, w)
      | some (.ok n, w) => some (.wrote n, w)

/-- Readiness is reported for one direction at a time, reading first. -/
def pollingReport (w : Wire) (room : Nat) (send : Send) : Option (Polling × Wire) :=
  if w.readable then some (.ready (some (.done (w.receive room).1)) none, (w.receive room).2)
  else match send with
    | .bytes chunk =>
      match w.transmit chunk with
      | none => none
      | some (.error fault, w) => some (.ready none (some [.failed fault]), w)
      | some (.ok n, w) => some (.ready none (some [.done n, .blocked]), w)
    | _ => none

instance : Reporting Streaming where
  report := streamingReport

instance : Reporting Polling where
  report := pollingReport

end Reconnect.Simulation
