import Reconnect.Clock

/-!
# Liveness of a connection

When something was last sent and last heard, by a clock that is read at the start of a cycle and
after every event, and how many packets went each way. Deciding what silence means is left to the
client.

## Results

* `Liveness.now_tick`: a reading sets the clock, and never sets it back.
-/

namespace Reconnect

/-- The largest value of a traffic counter. -/
def maxCount : Nat := UInt64.size - 1

/-- Clock of the cycle, times of the last traffic, and traffic counters. -/
structure Liveness where
  /-- The clock of the current cycle. -/
  now : Nanos := 0
  lastSent : Nanos := 0
  lastHeard : Nanos := 0
  /-- Packets written since the start. -/
  sent : Nat := 0
  /-- Frames received since the start. -/
  received : Nat := 0
deriving DecidableEq, Repr

namespace Liveness

/-- A clock that starts at `t`, with nothing sent or heard before. -/
def starting (t : Nanos) : Liveness := { now := t, lastSent := t, lastHeard := t }

/-- Reads the clock; it never goes back. -/
def tick (l : Liveness) (t : Nanos) : Liveness := { l with now := max l.now t }

/-- Bytes arrived in this cycle. -/
def heard (l : Liveness) : Liveness := { l with lastHeard := l.now }

/-- Bytes left in this cycle. -/
def spoke (l : Liveness) : Liveness := { l with lastSent := l.now }

/-- A new connection counts as both sent to and heard from. -/
def fresh (l : Liveness) : Liveness := l.heard.spoke

/-- One packet was written in full. -/
def countSent (l : Liveness) : Liveness := { l with sent := min (l.sent + 1) maxCount }

/-- One frame was received in full. -/
def countReceived (l : Liveness) : Liveness := { l with received := min (l.received + 1) maxCount }

/-- How long nothing has been heard. -/
def idleHeard (l : Liveness) : Nanos := l.now - l.lastHeard

/-- How long nothing has been sent. -/
def idleSent (l : Liveness) : Nanos := l.now - l.lastSent

/-- An operation on the clock and the counters. -/
inductive Op where
  | tick (t : Nanos)
  | heard
  | spoke
  | fresh
  | countSent
  | countReceived
deriving DecidableEq, Repr

def step (l : Liveness) : Op → Liveness
  | .tick t => l.tick t
  | .heard => l.heard
  | .spoke => l.spoke
  | .fresh => l.fresh
  | .countSent => l.countSent
  | .countReceived => l.countReceived

def run (l : Liveness) (ops : List Op) : Liveness := ops.foldl step l

@[simp] theorem now_tick (l : Liveness) (t : Nanos) : (l.tick t).now = max l.now t := rfl

@[simp] theorem run_nil (l : Liveness) : l.run [] = l := rfl

@[simp] theorem run_cons (l : Liveness) (op : Op) (ops : List Op) :
    l.run (op :: ops) = (l.step op).run ops := rfl

end Liveness

end Reconnect
