import Reconnect.Simulation.Wire

/-!
# The world around a transport

A world holds a wire, an attempt to open the next one, and an agenda of what the holders of the
control will do. Its clock counts milliseconds and stands still while something can happen; when
nothing can, it jumps to the next time at which something will.

## Results

* `pauseEnd_eq_iff`: a pause ends when it was asked to exactly if it lasts in full.
* `Dial.look?_eq_none_iff`: an attempt that is watched ends at `Dial.ends`, not before.
-/

namespace Reconnect.Simulation

/-- What becomes of an attempt to open a stream. -/
inductive Reception where
  | accepted
  | refused
  /-- The endpoint never answers. -/
  | ignored
  /-- There is no way to the endpoint. -/
  | unreachable
deriving DecidableEq, Repr

/-- How an endpoint treats an attempt to connect. -/
structure Plan where
  reception : Reception := .accepted
  delay : Nanos := 0
  /-- The number of bytes that each direction of the new wire holds. -/
  capacity : Nat := 65536
  stuckFlush : Bool := false
deriving DecidableEq, Repr

/-- An attempt to open a stream. -/
structure Dial where
  plan : Plan
  timeout : Nanos
  /-- When it was first waited for. -/
  since : Option Nat := none
deriving DecidableEq, Repr

/-- What the holders of the control will do. -/
structure Appointment where
  due : Nat
  actions : List Control.Action
deriving DecidableEq, Repr

/-- The surroundings of a transport. -/
structure World where
  now : Nat := 0
  /-- Earlier appointments first. -/
  agenda : List Appointment := []
  dial : Option Dial := none
  /-- The wire that was opened last. -/
  wire : Option Wire := none
  /-- The endpoints that a stream was asked for, in order. -/
  asked : List Endpoint := []
deriving DecidableEq, Repr

/-- A time span on a clock that counts milliseconds, rounded up. -/
def ticks (t : Nanos) : Nat := (t + 999999) / 1000000

/-- The seconds that the clock can still count. It counts up to `2 ^ 63`, and some were over when it
was first read. -/
def clockRange : Nat := 1 <<< 63 - 1 <<< 24

/-- Thirty years: the longest pause, and what stands for the end of a wait that is beyond the range
of the clock. -/
def forever : Nanos := Nanos.ofSecs (86400 * 365 * 30)

/-- When a wait that starts now is over. -/
def deadline (now : Nat) (wait : Nanos) : Nat :=
  if clockRange ≤ now / 1000 + wait.secs then now + ticks forever else now + ticks wait

/-- When a pause that starts now is over. A longer one than `forever` is cut short. -/
def pauseEnd (now : Nat) (pause : Nanos) : Nat := now + min (ticks pause) (ticks forever)

/-- Whether a pause lasts as long as it was asked to. -/
def lastsInFull (pause : Nanos) : Bool := ticks pause ≤ ticks forever

theorem pauseEnd_eq_iff {now : Nat} {pause : Nanos} :
    pauseEnd now pause = now + ticks pause ↔ lastsInFull pause = true := by
  simp only [pauseEnd, lastsInFull, decide_eq_true_eq]
  omega

namespace Dial

/-- When the attempt ends by itself, if it does. -/
def ripe? (d : Dial) (since : Nat) : Option Nat :=
  match d.plan.reception with
  | .ignored => none
  | _ => some (pauseEnd since d.plan.delay)

/-- When the attempt has taken too long. -/
def expiry (d : Dial) (since : Nat) : Nat := since + ticks d.timeout

/-- When the attempt ends, if it is watched. -/
def ends (d : Dial) (since : Nat) : Nat :=
  match d.ripe? since with
  | some ripe => min ripe (d.expiry since)
  | none => d.expiry since

/-- What the endpoint makes of the attempt: a new wire or a fault. -/
def reply (d : Dial) : Except Fault Wire :=
  match d.plan.reception with
  | .accepted => .ok (.new d.plan.capacity d.plan.stuckFlush)
  | .refused => .error (.io (.plain .connectionRefused))
  | .ignored => .error .connectTimeout
  | .unreachable => .error (.io (.system .networkUnreachable))

/-- What somebody finds who looks at the attempt now. An endpoint that has replied by then counts,
also if its reply came late and nobody was looking. -/
def look? (d : Dial) (since now : Nat) : Option (Except Fault Wire) :=
  if (d.ripe? since).any (· ≤ now) then some d.reply
  else if d.expiry since ≤ now then some (.error .connectTimeout)
  else none

theorem look?_eq_none_iff {d : Dial} {since now : Nat} :
    d.look? since now = none ↔ now < d.ends since := by
  unfold look? ends
  cases d.ripe? since with
  | none => simp
  | some ripe =>
    simp only [Option.any_some, decide_eq_true_eq]
    split
    · simp only [reduceCtorEq, false_iff]
      omega
    · split
      · simp only [reduceCtorEq, false_iff]
        omega
      · simp only [true_iff]
        omega

end Dial

/-- Puts an appointment on an agenda that is in order of time. What is due at one time is one
appointment. -/
def schedule (a : Appointment) : List Appointment → List Appointment
  | [] => [a]
  | b :: agenda =>
    if a.due < b.due then a :: b :: agenda
    else if a.due = b.due then { b with actions := b.actions ++ a.actions } :: agenda
    else b :: schedule a agenda

/-- Whether a list of actions wakes a transport. -/
def wakes (actions : List Control.Action) : Bool := (({} : Control).runActions actions).woken

namespace World

variable {α : Type}

def clock (w : World) : Nanos := Nanos.ofMillis w.now

/-- The attempt under way counts as started from the first wait for it on. -/
def started (w : World) : World :=
  { w with dial := w.dial.map fun d => { d with since := some (d.since.getD w.now) } }

/-- What the stream or the attempt has to report now. -/
def report? [Reporting α] (w : World) : Wait → Option (Signal α × World)
  | .attempt =>
    match w.dial with
    | none => none
    | some d =>
      match d.look? (d.since.getD w.now) w.now with
      | none => none
      | some (.ok wire) => some (.opened none, { w with dial := none, wire := some wire })
      | some (.error fault) => some (.refused fault, { w with dial := none })
  | .traffic room send =>
    match w.wire with
    | none => none
    | some wire =>
      match Reporting.report wire room send with
      | none => none
      | some (x, wire) => some (.traffic x, { w with wire := some wire })

/-- What can happen without the clock going on. -/
def signal? [Reporting α] (w : World) (wait : Wait) (woken : Bool) (deadline : Nat) :
    Option (Signal α × World) :=
  match w.report? wait with
  | some found => some found
  | none =>
    if woken then some (.woken, w)
    else if deadline ≤ w.now then some (.elapsed, w)
    else none

/-- Up to when nothing happens except for what is on the agenda. -/
def horizon (w : World) (wait : Wait) (deadline : Nat) : Nat :=
  match wait, w.dial with
  | .attempt, some d => min deadline (d.ends (d.since.getD w.now))
  | _, _ => deadline

/-- Waits, with the appointments of an agenda ahead and `done` behind. What is due just when the
wait ends is left for the next one. -/
def settle [Reporting α] (wait : Wait) (deadline : Nat) :
    List Appointment → World → (done : List Control.Action) → (woken : Bool) →
      Moment (Signal α) × World
  | [], w, done, woken =>
    match w.signal? wait woken deadline with
    | some (s, w) => (⟨done, w.clock, s⟩, { w with agenda := [] })
    | none =>
      let w := { w with now := max w.now (w.horizon wait deadline) }
      let found := (w.signal? wait woken deadline).getD (.elapsed, w)
      (⟨done, w.clock, found.1⟩, { found.2 with agenda := [] })
  | a :: agenda, w, done, woken =>
    match w.signal? wait woken deadline with
    | some (s, w) => (⟨done, w.clock, s⟩, { w with agenda := a :: agenda })
    | none =>
      if a.due < w.horizon wait deadline then
        settle wait deadline agenda { w with now := max w.now a.due } (done ++ a.actions)
          (woken || wakes a.actions)
      else
        let w := { w with now := max w.now (w.horizon wait deadline) }
        let found := (w.signal? wait woken deadline).getD (.elapsed, w)
        (⟨done, w.clock, found.1⟩, { found.2 with agenda := a :: agenda })

/-- What a wait comes to that is over at `deadline`. -/
def await [Reporting α] (deadline : Nat) (w : World) (wait : Wait) (woken : Bool) :
    Option (Moment (Signal α) × World) :=
  let w := match wait with
    | .attempt => w.started
    | .traffic _ _ => w
  some (settle wait deadline w.agenda w [] woken)

/-- Lets time pass up to an instant; what is due before it is done. -/
def elapse (w : World) (time : Nat) : List Control.Action × World :=
  (((w.agenda.takeWhile fun a => a.due < time).map (·.actions)).flatten,
    { w with
      now := max w.now time
      agenda := w.agenda.dropWhile fun a => a.due < time })

/-- What a wait for sending comes to that is over at `deadline`. -/
def awaitSent (deadline : Nat) (w : World) (send : Send) : Option (Moment Transport.Sent × World) :=
  let late : Moment Transport.Sent × World :=
    let passed := w.elapse deadline
    (⟨passed.1, passed.2.clock, .elapsed⟩, passed.2)
  match w.wire with
  | none => some late
  | some wire =>
    match send with
    | .bytes chunk =>
      match wire.transmit chunk with
      | none => some late
      | some (.error fault, wire) =>
        some (⟨[], w.clock, .failed fault⟩, { w with wire := some wire })
      | some (.ok n, wire) => some (⟨[], w.clock, .wrote n⟩, { w with wire := some wire })
    | _ => if wire.stuckFlush then some late else some (⟨[], w.clock, .flushed⟩, w)

/-- More waits than a cycle or a drive can come to: each uses up an appointment, a byte that is held
or the room for one, or else ends it. -/
def bound (w : World) : Nat :=
  let dialed := match w.dial with
    | some d => 2 * d.plan.capacity
    | none => 0
  let wired := match w.wire with
    | some wire => wire.toClient.held.length + 2 * wire.toServer.capacity
    | none => 0
  w.agenda.length + dialed + wired + 8

end World

end Reconnect.Simulation
