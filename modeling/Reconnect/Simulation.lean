import Reconnect.Simulation.World

/-!
# A transport in a simulated network

A simulation runs a transport over wires that are held in memory, under a clock that does not stand
still for anybody. The other end of the wire is moved by hand: a server sends, reads and closes
between the cycles of the transport.
-/

namespace Reconnect

open Simulation

/-- A transport and the world around it. -/
structure Simulation (σ : Type) where
  transport : Transport σ
  world : World := {}
deriving DecidableEq, Repr

/-- How a row of cycles ended. -/
inductive Driven where
  /-- A cycle took its whole wait. -/
  | idle
  /-- The transport was shut down. -/
  | closed
  | failed (fault : Fault)
deriving DecidableEq, Repr

namespace Simulation

variable {σ : Type}

/-- A transport that was never connected, in a world where nothing has happened. -/
def new (settings : Settings) (client : σ) : Simulation σ where
  transport := .new settings client

/-- The holders of the control act at once. -/
def act (s : Simulation σ) (actions : List Control.Action) : Simulation σ :=
  { s with transport := { s.transport with link := s.transport.link.steer actions } }

/-- The holders of the control will act after some time. -/
def later (s : Simulation σ) (after : Nanos) (actions : List Control.Action) : Simulation σ :=
  let due := pauseEnd s.world.now after
  { s with world := { s.world with agenda := schedule ⟨due, actions⟩ s.world.agenda } }

def sleep (s : Simulation σ) (span : Nanos) : Simulation σ :=
  let passed := s.world.elapse (pauseEnd s.world.now span)
  { s with world := passed.2 }.act passed.1

/-! ## The transport -/

/-- Starts an attempt to connect, which the endpoint treats as planned. -/
def connect (s : Simulation σ) (e : Endpoint) (plan : Plan) : Simulation σ × Option Fault :=
  let begun := s.transport.connect e
  match begun.2 with
  | some fault => ({ s with transport := begun.1 }, some fault)
  | none =>
    let dial := { plan, timeout := s.transport.link.settings.connectTimeout }
    ({ s with
        transport := begun.1
        world := { s.world with dial := some dial, asked := s.world.asked ++ [e] } }, none)

/-- One cycle over streams of type `α`. -/
def cycle [Client σ] (α : Type) [Reporting α] (s : Simulation σ) (wait : Nanos) :
    Simulation σ × Verdict :=
  let await : World → Wait → Bool → Option (Moment (Signal α) × World) :=
    World.await (deadline s.world.now wait)
  let ran := s.transport.cycle await s.world.bound s.world.clock s.world
  ({ transport := ran.1, world := ran.2.1 }, ran.2.2)

/-- Runs at most `fuel` cycles of the given wait, until one takes its whole wait, fails or finds the
transport shut down. -/
def driveFor [Client σ] (α : Type) [Reporting α] (wait : Nanos) :
    (fuel : Nat) → Simulation σ → Simulation σ × Driven
  | 0, s => (s, .idle)
  | fuel + 1, s =>
    let ran := s.cycle α wait
    match ran.2 with
    | .failed fault => (ran.1, .failed fault)
    | _ =>
      if ran.1.transport.link.phase = .closed then (ran.1, .closed)
      else if s.world.now + ticks wait ≤ ran.1.world.now then (ran.1, .idle)
      else driveFor α wait fuel ran.1

/-- Runs cycles of the given wait until nothing is left to do. -/
def drive [Client σ] (α : Type) [Reporting α] (s : Simulation σ) (wait : Nanos) :
    Simulation σ × Driven :=
  s.driveFor α wait s.world.bound

/-- Sends a packet out of band over streams of type `α`. -/
def sendAhead (α : Type) [Reporting α] (s : Simulation σ) (p : Packet) :
    Simulation σ × Verdict :=
  let limit := s.world.now + ticks s.transport.link.settings.sendTimeout
  let ran := s.transport.sendAhead (Backend.flushes α) (World.awaitSent limit) s.world.bound p
    s.world
  ({ transport := ran.1, world := ran.2.1 }, ran.2.2)

/-- The transport gives up its connection, and the attempt under way is over. -/
def cleanup (s : Simulation σ) : Simulation σ :=
  { s with transport := s.transport.cleanup, world := { s.world with dial := none } }

/-- The transport is shut down for good, and the attempt under way is over. -/
def close (s : Simulation σ) : Simulation σ :=
  { s with transport := s.transport.close, world := { s.world with dial := none } }

/-! ## The server -/

/-- The server's end of the wire, while it is there. -/
def serverWire? (s : Simulation σ) : Option Wire := s.world.wire.filter fun w => !w.serverGone

/-- The server sends what fits; nothing goes to a transport that has let the stream go. -/
def serverSend (s : Simulation σ) (data : Bytes) : Simulation σ × Option Nat :=
  match s.serverWire? with
  | none => (s, none)
  | some wire =>
    if s.transport.live then
      let moved := wire.toClient.write data
      ({ s with world := { s.world with wire := some { wire with toClient := moved.2 } } },
        some moved.1)
    else (s, some 0)

/-- The server reads what it has got, at most `limit` bytes if there is a limit. -/
def serverRead (s : Simulation σ) (limit : Option Nat) : Simulation σ × Option Bytes :=
  match s.serverWire? with
  | none => (s, none)
  | some wire =>
    let taken := wire.toServer.read (limit.getD wire.toServer.held.length)
    ({ s with world := { s.world with wire := some { wire with toServer := taken.2 } } },
      some taken.1)

/-- The server reads everything and closes its end. -/
def serverClose (s : Simulation σ) : Simulation σ :=
  match s.serverWire? with
  | none => s
  | some wire =>
    let closed := { wire with toServer := { wire.toServer with held := [] }, serverGone := true }
    { s with world := { s.world with wire := some closed } }

end Simulation

end Reconnect
