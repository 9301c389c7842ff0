import Reconnect.Proofs.Flow
import Reconnect.Transport.Polling

/-!
# What a transport does to its link

Whatever a transport is asked for, and however the waits of its cycles end, it is a list of
operations on its link: its deeds, told along the same recursion as the work itself.  So what holds
in every run of a link holds for every transport, and what a backend does in a certain order can be
read off the list.

## Protocol

* An act is something that a transport is asked for, with the script of what its waits come to.
* The deeds of an act are the operations on the link that it performs, in order; the course of
  acts is the course of all their deeds.

## Results

* `Transport.link_rounds`, `Transport.link_drain`: what the loops do to the link.
* `Transport.link_perform`: **the deeds of an act do to the link what the act does**.
* `Transport.path_course`: **acts are a path of the flow of the link**, along their course.
-/

namespace Reconnect

/-- A backend of which it is known what it does to the link. -/
class Carrying (α : Type) extends Backend α where
  /-- The operations on the link that a report comes to. -/
  deeds {σ : Type} [Client σ] : Transport σ → α → List Link.Op
  link_carry {σ : Type} [Client σ] (t : Transport σ) (report : α) :
    (Backend.carry t report).1.link = t.link.run (deeds t report)

/-- Bytes that were read are heard and processed; none are the end of the stream. -/
def receiveDeeds (data : Bytes) : List Link.Op :=
  if data.isEmpty then [] else [.heard data, .process]

theorem eq_or_of_mem_receiveDeeds {data : Bytes} {op : Link.Op} (h : op ∈ receiveDeeds data) :
    op = .heard data ∨ op = .process := by
  unfold receiveDeeds at h
  split at h
  · cases h
  · simpa using h

namespace Streaming

variable {σ : Type}

/-- What a finished operation comes to. -/
def deeds : Streaming → List Link.Op
  | received data => receiveDeeds data
  | wrote n => if n = 0 then [] else [.wrote n]
  | flushed | failed _ => []

theorem link_carry [Client σ] (t : Transport σ) (report : Streaming) :
    (carry t report).1.link = t.link.run (deeds report) := by
  cases report with
  | received data =>
    simp only [carry, receive, deeds, receiveDeeds]
    split <;> rfl
  | wrote n =>
    simp only [carry, write, deeds]
    split <;> rfl
  | flushed | failed fault => rfl

instance : Carrying Streaming where
  deeds _ report := deeds report
  link_carry := link_carry

end Streaming

namespace Polling

variable {σ : Type}

/-- What reading once comes to. -/
def readDeeds : Attempt Bytes → List Link.Op
  | .done data => receiveDeeds data
  | .blocked | .failed _ => []

/-- What writing comes to, as long as something is left and the stream has room. -/
def writeDeeds (t : Transport σ) : List (Attempt Nat) → List Link.Op
  | [] => []
  | outcome :: outcomes =>
    if t.link.hasUnsent then
      match outcome with
      | .blocked | .failed _ | .done 0 => []
      | .done n => .wrote n :: writeDeeds { t with link := t.link.wrote n } outcomes
    else []

/-- Reads if the stream is ready for it. -/
def reading [Client σ] (t : Transport σ) : Option (Attempt Bytes) → Transport σ × Option Fault
  | none => (t, none)
  | some outcome => read t outcome

/-- What readiness comes to: reading comes first, and writing only if that met no fault. -/
def deeds [Client σ] (t : Transport σ) : Polling → List Link.Op
  | failed _ => []
  | ready reads writes =>
    reads.elim [] readDeeds ++
    match (reading t reads).2, writes with
    | some _, _ | none, none => []
    | none, some outcomes =>
      .fill :: writeDeeds
        { (reading t reads).1 with link := (reading t reads).1.link.fill } outcomes

theorem carry_ready [Client σ] (t : Transport σ) (reads : Option (Attempt Bytes))
    (writes : Option (List (Attempt Nat))) :
    carry t (ready reads writes) =
      match (reading t reads).2, writes with
      | some fault, _ => ((reading t reads).1, .fail fault)
      | none, none => ((reading t reads).1, .finish)
      | none, some outcomes =>
        let written := write
          { (reading t reads).1 with link := (reading t reads).1.link.fill } outcomes
        (written.1, Next.finish.orFail written.2) := by
  cases reads <;> rfl

theorem link_read [Client σ] (t : Transport σ) (outcome : Attempt Bytes) :
    (read t outcome).1.link = t.link.run (readDeeds outcome) := by
  cases outcome with
  | blocked | failed fault => rfl
  | done data =>
    simp only [read, readDeeds, receiveDeeds]
    split <;> rfl

theorem link_write [Client σ] (t : Transport σ) (outcomes : List (Attempt Nat)) :
    (write t outcomes).1.link = t.link.run (writeDeeds t outcomes) := by
  induction outcomes generalizing t with
  | nil => rfl
  | cons outcome outcomes ih =>
    unfold write writeDeeds
    split
    · cases outcome with
      | blocked | failed fault => rfl
      | done n =>
        cases n with
        | zero => rfl
        | succ n => exact ih _
    · rfl

theorem link_carry [Client σ] (t : Transport σ) (report : Polling) :
    (carry t report).1.link = t.link.run (deeds t report) := by
  cases report with
  | failed fault => rfl
  | ready reads writes =>
    have hread : (reading t reads).1.link = t.link.run (reads.elim [] readDeeds) := by
      cases reads with
      | none => rfl
      | some outcome => exact link_read t outcome
    rw [carry_ready]
    unfold deeds
    rw [Link.run_append, ← hread]
    cases (reading t reads).2 with
    | some fault => rfl
    | none =>
      cases writes with
      | none => rfl
      | some outcomes => exact link_write { (reading t reads).1 with
          link := (reading t reads).1.link.fill } outcomes

instance : Carrying Polling where
  deeds := deeds
  link_carry := link_carry

end Polling

namespace Transport

variable {σ α ω : Type}

/-! ## Cycles -/

/-- What getting ready for a wait comes to. -/
def armDeeds (t : Transport σ) : List Link.Op :=
  match t.carrier with
  | .live => [.fill, .makeRoom]
  | .absent | .dialing => []

/-- What a signal asks for. -/
def signalDeeds [Client σ] [Carrying α] (t : Transport σ) (now : Nanos) :
    Signal α → List Link.Op
  | .opened localEnd => if t.carrier = .dialing then [.established localEnd now] else []
  | .traffic report => if t.carrier = .live then Carrying.deeds t report else []
  | .woken => [.calm]
  | .refused _ | .elapsed => []

/-- What a moment comes to. -/
def takeDeeds [Client σ] [Carrying α] (t : Transport σ) (m : Moment (Signal α)) : List Link.Op :=
  .steer m.actions :: .tick m.now :: (t.meanwhile m.actions m.now).signalDeeds m.now m.signal

/-- What shutting down comes to. -/
def closeDeeds (t : Transport σ) : List Link.Op := if t.link.isClosed then [] else [.close]

/-- What the waits of a cycle come to. -/
def roundsDeeds [Client σ] [Carrying α] (await : ω → Wait → Bool → Option (Moment (Signal α) × ω)) :
    (fuel : Nat) → Transport σ → ω → List Link.Op
  | 0, _, _ => []
  | fuel + 1, t, around =>
    if t.link.control.closing then t.closeDeeds
    else
      t.armDeeds ++
      match t.arm with
      | (_, none) => []
      | (t, some wait) =>
        match await around wait t.link.control.woken with
        | none => []
        | some (m, around) =>
          t.takeDeeds m ++
          match t.take m with
          | (t, .again) => roundsDeeds await fuel t around
          | (_, .finish) => [.handOver]
          | (_, .fail _) => []

theorem link_arm [Client σ] (t : Transport σ) : t.arm.1.link = t.link.run t.armDeeds := by
  unfold arm armDeeds
  cases t.carrier with
  | absent | dialing | live => rfl

theorem link_take [Client σ] [Carrying α] (t : Transport σ) (m : Moment (Signal α)) :
    (t.take m).1.link = t.link.run (t.takeDeeds m) := by
  have hmeanwhile : (t.meanwhile m.actions m.now).link =
      t.link.run [.steer m.actions, .tick m.now] := rfl
  have hsplit : t.takeDeeds m = [.steer m.actions, .tick m.now] ++
      (t.meanwhile m.actions m.now).signalDeeds m.now m.signal := rfl
  rw [hsplit, Link.run_append, ← hmeanwhile, take]
  cases m.signal with
  | opened localEnd =>
    simp only [signalDeeds]
    split <;> rfl
  | refused fault =>
    simp only [signalDeeds]
    split <;> rfl
  | traffic report =>
    simp only [signalDeeds]
    split
    · exact Carrying.link_carry _ report
    · rfl
  | woken | elapsed => rfl

theorem link_close [Client σ] (t : Transport σ) : t.close.link = t.link.run t.closeDeeds := by
  unfold close closeDeeds
  cases t.link.isClosed <;> rfl

theorem link_rounds [Client σ] [Carrying α]
    (await : ω → Wait → Bool → Option (Moment (Signal α) × ω)) (fuel : Nat) (t : Transport σ)
    (around : ω) :
    (rounds await fuel t around).1.link = t.link.run (roundsDeeds await fuel t around) := by
  induction fuel generalizing t around with
  | zero => rfl
  | succ fuel ih =>
    rw [rounds, roundsDeeds]
    split
    · exact t.link_close
    · rw [Link.run_append, ← link_arm]
      obtain ⟨armed, offer⟩ := t.arm
      cases offer with
      | none => rfl
      | some wait =>
        simp only
        cases await around wait armed.link.control.woken with
        | none => rfl
        | some found =>
          obtain ⟨m, around⟩ := found
          simp only
          rw [Link.run_append, ← link_take]
          obtain ⟨taken, next⟩ := armed.take m
          cases next with
          | again => exact ih taken around
          | finish | fail fault => rfl

/-- What a cycle comes to. -/
def cycleDeeds [Client σ] [Carrying α] (await : ω → Wait → Bool → Option (Moment (Signal α) × ω))
    (fuel : Nat) (t : Transport σ) (now : Nanos) (around : ω) : List Link.Op :=
  if t.link.isClosed then []
  else
    .tick now :: .handOver ::
      roundsDeeds await fuel { t with link := (t.link.tick now).handOver } around

theorem link_cycle [Client σ] [Carrying α]
    (await : ω → Wait → Bool → Option (Moment (Signal α) × ω)) (fuel : Nat) (t : Transport σ)
    (now : Nanos) (around : ω) :
    (cycle await fuel t now around).1.link = t.link.run (cycleDeeds await fuel t now around) := by
  unfold cycle cycleDeeds
  cases t.link.isClosed with
  | true => rfl
  | false => exact link_rounds await fuel { t with link := (t.link.tick now).handOver } around

/-! ## Sending out of band -/

/-- What a signal comes to while sending is under way. -/
def sentDeeds (send : Send) : Sent → List Link.Op
  | .wrote n =>
    match send with
    | .bytes _ => if n = 0 then [] else [.wrote n]
    | .nothing | .flush => []
  | .blocked | .flushed | .failed _ | .elapsed => []

/-- What writing until nothing is left comes to. -/
def drainDeeds (flushes : Bool) (await : ω → Send → Option (Moment Sent × ω)) :
    (fuel : Nat) → Transport σ → ω → List Link.Op
  | 0, _, _ => []
  | fuel + 1, t, around =>
    let send := if t.link.hasUnsent then .bytes t.link.outbound.bytes else .flush
    if !t.link.hasUnsent && !flushes then []
    else
      match await around send with
      | none => []
      | some (m, around) =>
        .steer m.actions :: sentDeeds send m.signal ++
        match takeSent { t with link := t.link.steer m.actions } send m.signal with
        | (t, .again) => drainDeeds flushes await fuel t around
        | (_, .finish) | (_, .fail _) => []

theorem link_takeSent [Client σ] (t : Transport σ) (send : Send) (signal : Sent) :
    (t.takeSent send signal).1.link = t.link.run (sentDeeds send signal) := by
  cases signal with
  | wrote n =>
    cases send with
    | nothing | flush => rfl
    | bytes chunk =>
      simp only [takeSent, sentDeeds]
      split <;> rfl
  | flushed => cases send <;> rfl
  | blocked | failed fault | elapsed => rfl

theorem link_drain [Client σ] (flushes : Bool) (await : ω → Send → Option (Moment Sent × ω))
    (fuel : Nat) (t : Transport σ) (around : ω) :
    (drain flushes await fuel t around).1.link =
      t.link.run (drainDeeds flushes await fuel t around) := by
  induction fuel generalizing t around with
  | zero => rfl
  | succ fuel ih =>
    rw [drain, drainDeeds]
    split
    · rfl
    · generalize (if t.link.hasUnsent then Send.bytes t.link.outbound.bytes else .flush) = send
      cases await around send with
      | none => rfl
      | some found =>
        obtain ⟨m, around⟩ := found
        have htaken : (takeSent { t with link := t.link.steer m.actions } send m.signal).1.link =
            (t.link.step (.steer m.actions)).1.run (sentDeeds send m.signal) :=
          link_takeSent { t with link := t.link.steer m.actions } send m.signal
        simp only
        rw [List.cons_append, Link.run_cons, Link.run_append, ← htaken]
        obtain ⟨taken, next⟩ := takeSent { t with link := t.link.steer m.actions } send m.signal
        cases next with
        | again => exact ih taken around
        | finish | fail fault => rfl

/-- What sending a packet ahead of the queue comes to. -/
def sendAheadDeeds (flushes : Bool) (await : ω → Send → Option (Moment Sent × ω)) (fuel : Nat)
    (t : Transport σ) (p : Packet) (around : ω) : List Link.Op :=
  if t.live then
    .pushAhead p :: drainDeeds flushes await fuel { t with link := t.link.pushAhead p } around
  else []

theorem link_sendAhead [Client σ] (flushes : Bool) (await : ω → Send → Option (Moment Sent × ω))
    (fuel : Nat) (t : Transport σ) (p : Packet) (around : ω) :
    (sendAhead flushes await fuel t p around).1.link =
      t.link.run (sendAheadDeeds flushes await fuel t p around) := by
  unfold sendAhead sendAheadDeeds
  split
  · exact link_drain flushes await fuel { t with link := t.link.pushAhead p } around
  · rfl

/-! ## Acts -/

/-- Something that a transport is asked for, or that happens to it between two cycles. A script says
what its waits come to, one after the other. -/
inductive Act (α : Type) where
  | connect (e : Endpoint)
  | cycle (now : Nanos) (script : List (Moment (Signal α)))
  | sendAhead (p : Packet) (script : List (Moment Sent))
  | cleanup
  | close
  /-- The holders of the control act. -/
  | steer (actions : List Control.Action)
  | abandonPending
deriving DecidableEq, Repr

/-- The next line of a script. -/
def line? {β : Type} : List β → Option (β × List β)
  | [] => none
  | m :: script => some (m, script)

/-- What an act does. -/
def perform [Client σ] [Backend α] (t : Transport σ) : Act α → Transport σ
  | .connect e => (t.connect e).1
  | .cycle now script =>
    (t.cycle (fun script _ _ => line? script) (script.length + 1) now script).1
  | .sendAhead p script =>
    (sendAhead (Backend.flushes α) (fun script _ => line? script) (script.length + 1) t p script).1
  | .cleanup => t.cleanup
  | .close => t.close
  | .steer actions => { t with link := t.link.steer actions }
  | .abandonPending => { t with link := t.link.abandonPending }

/-- What an act comes to. -/
def deeds [Client σ] [Carrying α] (t : Transport σ) : Act α → List Link.Op
  | .connect e => [.connect e]
  | .cycle now script =>
    cycleDeeds (fun script _ _ => line? script) (script.length + 1) t now script
  | .sendAhead p script =>
    sendAheadDeeds (Backend.flushes α) (fun script _ => line? script) (script.length + 1) t p script
  | .cleanup => [.reset]
  | .close => t.closeDeeds
  | .steer actions => [.steer actions]
  | .abandonPending => [.abandonPending]

/-- **The deeds of an act do to the link what the act does.** -/
theorem link_perform [Client σ] [Carrying α] (t : Transport σ) (act : Act α) :
    (t.perform act).link = t.link.run (t.deeds act) := by
  cases act with
  | connect e =>
    show (t.connect e).1.link = (t.link.connect e).1
    unfold connect
    cases hc : (t.link.connect e).2 <;> simp only [hc]
  | cycle now script => exact link_cycle _ _ t now script
  | sendAhead p script => exact link_sendAhead _ _ _ t p script
  | close => exact t.link_close
  | cleanup | steer actions | abandonPending => rfl

/-- Acts one after the other, whatever faults they come to. -/
def run [Client σ] [Backend α] (t : Transport σ) (acts : List (Act α)) : Transport σ :=
  acts.foldl perform t

/-- What an act comes to, move by move. -/
def moves [Client σ] [Carrying α] (t : Transport σ) (act : Act α) : List Move :=
  t.link.course (t.deeds act)

/-- What acts come to, move by move. -/
def course [Client σ] [Carrying α] (t : Transport σ) : List (Act α) → List Move
  | [] => []
  | act :: acts => t.moves act ++ (t.perform act).course acts

/-- **Acts are a path of the flow of the link**, along their course. -/
theorem path_course [Client σ] [Carrying α] (t : Transport σ) (acts : List (Act α)) :
    Flow.Path t.link.flow (t.course acts) (t.run acts).link.flow := by
  induction acts generalizing t with
  | nil => exact .nil
  | cons act acts ih =>
    have first := t.link.path_run (t.deeds act)
    rw [← link_perform] at first
    exact first.append (ih (t.perform act))

end Transport

end Reconnect
