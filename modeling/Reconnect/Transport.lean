import Reconnect.Link

/-!
# Transports

A transport is a link together with the byte stream that carries it. It works in cycles: a cycle
waits for one thing at a time, takes what happens, and ends with the first piece of work that is
done, with a fault, or when its time is over.

## Protocol

* `arm` gets the transport ready for a wait and says what the wait offers.
* Whatever surrounds the transport decides what the wait comes to, a `Moment`: what the holders of
  the control did meanwhile, the reading of the clock, and a signal.
* `take` does what the signal asks for. What a signal of the stream means is left to the
  `Backend`, so that streams that complete reads and writes and streams that report readiness are
  carried alike.
* `cycle` repeats this, in surroundings that are a parameter.

A fault ends a cycle at once. The stream is kept until the caller gives it up.
-/

namespace Reconnect

/-- What a cycle waits on. -/
inductive Carrier where
  | absent
  /-- An attempt to open a stream. -/
  | dialing
  | live
deriving DecidableEq, Repr

/-- A link, and what is held of the byte stream that carries it. -/
structure Transport (σ : Type) where
  link : Link σ
  /-- An attempt to open a stream is under way. -/
  dialing : Bool := false
  /-- A stream is open. -/
  live : Bool := false
  /-- Bytes were written since the last flush. -/
  unflushed : Bool := false
deriving DecidableEq, Repr

/-- What a transport would like to do with an open stream, besides reading from it. -/
inductive Send where
  | nothing
  | bytes (chunk : Bytes)
  | flush
deriving DecidableEq, Repr

/-- What a wait waits for, besides a wake-up and the end of its time. -/
inductive Wait where
  /-- The end of the attempt to open a stream. -/
  | attempt
  /-- Bytes to read, at most `room` of them, and the room to send. -/
  | traffic (room : Nat) (send : Send)
deriving DecidableEq, Repr

/-- What ends a wait; `α` is what an open stream can report. -/
inductive Signal (α : Type) where
  | opened (localEnd : Option Endpoint)
  /-- The attempt to open a stream has failed. -/
  | refused (fault : Fault)
  | traffic (report : α)
  | woken
  | elapsed
deriving DecidableEq, Repr

/-- What a wait comes to. -/
structure Moment (α : Type) where
  /-- What the holders of the control did during the wait. -/
  actions : List Control.Action := []
  /-- The reading of the clock after the wait. -/
  now : Nanos
  signal : α
deriving DecidableEq, Repr

/-- How a cycle goes on after a signal. -/
inductive Next where
  /-- With another wait. -/
  | again
  /-- Not at all: its work is done. -/
  | finish
  | fail (fault : Fault)
deriving DecidableEq, Repr

/-- How a cycle ended. -/
inductive Verdict where
  | finished
  | failed (fault : Fault)
  /-- It did not end: nothing more happened. -/
  | waiting
deriving DecidableEq, Repr

namespace Next

/-- Goes on as `next` unless there is a fault. -/
def orFail (next : Next) : Option Fault → Next
  | some fault => fail fault
  | none => next

end Next

/-- What the reports of an open stream mean. -/
class Backend (α : Type) where
  /-- Takes what the stream reports. -/
  carry {σ : Type} [Client σ] : Transport σ → α → Transport σ × Next
  /-- Written bytes need a flush to leave. -/
  flushes : Bool

namespace Transport

variable {σ α ω : Type}

/-- A transport that was never connected. -/
def new (settings : Settings) (client : σ) : Transport σ where
  link := .new settings client

/-- An attempt is waited for before an open stream. -/
def carrier (t : Transport σ) : Carrier :=
  if t.dialing then .dialing else if t.live then .live else .absent

/-- Gives up the attempt and the stream. -/
def release (t : Transport σ) : Transport σ :=
  { t with dialing := false, live := false, unflushed := false }

def connect (t : Transport σ) (e : Endpoint) : Transport σ × Option Fault :=
  let begun := t.link.connect e
  match begun.2 with
  | some fault => ({ t with link := begun.1 }, some fault)
  | none => ({ t.release with link := begun.1, dialing := true }, none)

def cleanup (t : Transport σ) : Transport σ := { t.release with link := t.link.reset }

/-- Shuts the transport down for good. -/
def close (t : Transport σ) : Transport σ :=
  { t.release with link := if t.link.isClosed then t.link else t.link.close }

/-! ## Cycles -/

/-- What there is to send: framed bytes, or else a flush that is due. -/
def send (t : Transport σ) : Send :=
  if t.link.hasUnsent then .bytes t.link.outbound.bytes
  else if t.unflushed then .flush
  else .nothing

/-- Gets ready for a wait; there is none without a stream. -/
def arm (t : Transport σ) : Transport σ × Option Wait :=
  match t.carrier with
  | .absent => (t, none)
  | .dialing => (t, some .attempt)
  | .live =>
    let filled := { t with link := t.link.fill.makeRoom }
    (filled, some (.traffic filled.link.room filled.send))

/-- The holders of the control act, and the clock is read. -/
def meanwhile (t : Transport σ) (actions : List Control.Action) (now : Nanos) : Transport σ :=
  { t with link := (t.link.steer actions).tick now }

/-- A kept wake-up is used up. -/
def wake (t : Transport σ) : Transport σ := { t with link := t.link.calm }

/-- The stream is open: the client primes the connection. -/
def opened [Client σ] (t : Transport σ) (localEnd : Option Endpoint) (now : Nanos) :
    Transport σ × Next :=
  let up := t.link.established localEnd now
  ({ t with link := up.1, dialing := false, live := true }, Next.again.orFail up.2)

/-- Does what a signal asks for. A signal that was not waited for is passed over. -/
def take [Client σ] [Backend α] (t : Transport σ) (m : Moment (Signal α)) : Transport σ × Next :=
  let t := t.meanwhile m.actions m.now
  match m.signal with
  | .opened localEnd => if t.carrier = .dialing then t.opened localEnd m.now else (t, .again)
  | .refused fault =>
    if t.carrier = .dialing then ({ t with dialing := false }, .fail fault) else (t, .again)
  | .traffic report => if t.carrier = .live then Backend.carry t report else (t, .again)
  | .woken => (t.wake, .again)
  | .elapsed => (t, .finish)

/-- Waits at most `fuel` times. Surroundings of type `ω` decide what each wait comes to, given the
wait and whether a wake-up is kept. -/
def rounds [Client σ] [Backend α] (await : ω → Wait → Bool → Option (Moment (Signal α) × ω)) :
    (fuel : Nat) → Transport σ → ω → Transport σ × ω × Verdict
  | 0, t, around => (t, around, .waiting)
  | fuel + 1, t, around =>
    if t.link.control.closing then (t.close, around, .finished)
    else
      match t.arm with
      | (t, none) => (t, around, .failed .notConnected)
      | (t, some wait) =>
        match await around wait t.link.control.woken with
        | none => (t, around, .waiting)
        | some (m, around) =>
          match t.take m with
          | (t, .again) => rounds await fuel t around
          | (t, .finish) => ({ t with link := t.link.handOver }, around, .finished)
          | (t, .fail fault) => (t, around, .failed fault)

/-- One cycle of at most `fuel` waits. -/
def cycle [Client σ] [Backend α] (await : ω → Wait → Bool → Option (Moment (Signal α) × ω))
    (fuel : Nat) (t : Transport σ) (now : Nanos) (around : ω) : Transport σ × ω × Verdict :=
  if t.link.isClosed then (t, around, .failed .closed)
  else rounds await fuel { t with link := (t.link.tick now).handOver } around

/-! ## Sending out of band -/

/-- What ends a wait for the stream to take bytes. -/
inductive Sent where
  | wrote (n : Nat)
  /-- The stream has no room after all. -/
  | blocked
  | flushed
  | failed (fault : IoFault)
  | elapsed
deriving DecidableEq, Repr

/-- A stream that takes no bytes although it has room. -/
def stalled : Fault := .io (.plain .writeZero)

/-- A packet sent out of band has not left in time. -/
def outOfTime : Fault := .io (.detailed .timedOut "out-of-band send timed out")

/-- Does what a signal asks for while `send` is under way. -/
def takeSent (t : Transport σ) (send : Send) : Sent → Transport σ × Next
  | .wrote n =>
    match send with
    | .bytes _ => if n = 0 then (t, .fail stalled) else ({ t with link := t.link.wrote n }, .again)
    | _ => (t, .again)
  | .flushed =>
    match send with
    | .flush => ({ t with unflushed := false }, .finish)
    | _ => (t, .again)
  | .blocked => (t, .again)
  | .failed fault => (t, .fail (.io fault))
  | .elapsed => (t, .fail outOfTime)

/-- Writes until nothing is left, then flushes if the stream needs it; waits at most `fuel`
times. -/
def drain (flushes : Bool) (await : ω → Send → Option (Moment Sent × ω)) :
    (fuel : Nat) → Transport σ → ω → Transport σ × ω × Verdict
  | 0, t, around => (t, around, .waiting)
  | fuel + 1, t, around =>
    let send := if t.link.hasUnsent then .bytes t.link.outbound.bytes else .flush
    if !t.link.hasUnsent && !flushes then (t, around, .finished)
    else
      match await around send with
      | none => (t, around, .waiting)
      | some (m, around) =>
        match takeSent { t with link := t.link.steer m.actions } send m.signal with
        | (t, .again) => drain flushes await fuel t around
        | (t, .finish) => (t, around, .finished)
        | (t, .fail fault) => (t, around, .failed fault)

/-- Sends a packet ahead of the queue, behind what is framed already. -/
def sendAhead (flushes : Bool) (await : ω → Send → Option (Moment Sent × ω)) (fuel : Nat)
    (t : Transport σ) (p : Packet) (around : ω) : Transport σ × ω × Verdict :=
  if t.live then
    drain flushes await fuel { t with link := t.link.pushAhead p } around
  else (t, around, .failed .notConnected)

end Transport

end Reconnect
