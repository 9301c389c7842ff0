import Reconnect.Proofs.Handover
import Reconnect.Proofs.Holding

/-!
# Shutting down

Whoever holds the control of a transport can ask it to stop, between two acts or during a wait, and
the client can do so too.  The request is a flag that nothing takes down again; the stage `closed`
is a mark of its own, which the next cycle sets, or whoever closes the transport.

## Protocol

* A transport is shut if its stage is `closed`, it holds neither an attempt nor a stream, and no
  written request is left with it.
* A shut transport refuses if it answers every connect, cycle and send with a fault and is the same
  as before, and if none of the operations that an act comes to calls the client or moves bytes.
* It is shut for good if it refuses after all that may be asked for later, and neither its client,
  its clock and counters nor the requests that wait for a reply change.

## Results

* `Flow.Path.closing`: the flag is up exactly if a request was made.
* `Transport.cycle_of_asked`: what the first cycle after a request comes to.
* `Transport.Shut.perform`, `Transport.Shut.run`: what an act does to a shut transport, and what any
  acts do to it.
* `Transport.stops_for_good`: **in every state that acts lead to, with both backends, a request to
  stop is served by the next cycle, and closing is for good.**
-/

namespace Reconnect

namespace Flow

theorem Step.closing {f g : Flow} {m : Move} (s : Step f m g) :
    g.control.closing = true ↔ f.control.closing = true ∨ .close ∈ m.actions := by
  cases s with
  | opened actions | answered response actions | received pending frame actions
  | steered actions => exact f.control.closing_runActions_iff actions
  | began b | calmed | framed hpop | pushed p | finished ho | handed hw | reset | closed =>
    simp [Move.actions, Control.restart]

/-- A request to stop is kept, whoever made it. -/
theorem Path.closing {f g : Flow} {h : List Move} (path : Path f h g) :
    g.control.closing = true ↔ f.control.closing = true ∨ .close ∈ h.flatMap Move.actions := by
  induction path with
  | nil => simp
  | snoc _ s ih => rw [s.closing, ih, List.flatMap_append, List.mem_append, List.flatMap_singleton,
      or_assoc]

end Flow

namespace Link

variable {σ : Type}

theorem phase_eq_closed_iff (l : Link σ) :
    l.phase = .closed ↔ l.control.closing = true ∨ l.stage = .closed := by
  unfold phase
  cases l.control.closing with
  | true => simp
  | false =>
    cases l.stage with
    | ready => cases l.control.authPending <;> simp
    | disconnected | connecting | handshaking | closed => simp

/-- The operation calls no client, takes and gives no bytes, and hands nothing over. -/
def Op.still : Op → Bool
  | .connect _ | .reset | .close | .tick _ | .steer _ | .abandonPending => true
  | _ => false

end Link

namespace Transport

variable {σ α ω : Type}

open Link

/-- A transport that is closed or asked to stop does not begin a connection, and stays as it is. -/
theorem connect_of_phase {t : Transport σ} (h : t.link.phase = .closed) (e : Endpoint) :
    t.connect e = (t, some .closed) := by
  unfold connect Link.connect
  rw [if_pos h]

/-! ## Shut transports -/

/-- The stage is `closed`, and nothing is held. -/
structure Shut (t : Transport σ) : Prop where
  stage : t.link.stage = .closed
  dialing : t.dialing = false
  live : t.live = false
  written : t.link.written = []

theorem Agrees.shut {t : Transport σ} (h : t.Agrees) (hs : t.link.stage = .closed) : t.Shut where
  stage := hs
  dialing := (h.closed hs).1
  live := (h.closed hs).2
  written := (h.bare (h.closed hs).2).written

section Shut

variable {t : Transport σ}

theorem Shut.isClosed (h : t.Shut) : t.link.isClosed = true := decide_eq_true h.stage

theorem Shut.phase (h : t.Shut) : t.link.phase = .closed :=
  t.link.phase_eq_closed_iff.mpr (.inr h.stage)

theorem Shut.connect (h : t.Shut) (e : Endpoint) : t.connect e = (t, some .closed) :=
  connect_of_phase h.phase e

theorem Shut.cycle [Client σ] [Backend α] (h : t.Shut)
    (await : ω → Wait → Bool → Option (Moment (Signal α) × ω)) (fuel : Nat) (now : Nanos)
    (around : ω) : t.cycle await fuel now around = (t, around, .failed .closed) := by
  rw [Transport.cycle, if_pos h.isClosed]

theorem Shut.sendAhead (h : t.Shut) (flushes : Bool)
    (await : ω → Send → Option (Moment Sent × ω)) (fuel : Nat) (p : Packet) (around : ω) :
    Transport.sendAhead flushes await fuel t p around = (t, around, .failed .notConnected) := by
  rw [Transport.sendAhead, h.live]
  rfl

/-- The client was not called, and no byte and no packet was counted. -/
structure Untouched (t u : Transport σ) : Prop where
  client : u.link.client = t.link.client
  liveness : u.link.liveness = t.link.liveness

/-- **An act leaves a shut transport shut**, and the requests that wait for a reply alone, unless
they are abandoned. -/
theorem Shut.perform [Client σ] [Backend α] (h : t.Shut) (act : Act α) :
    (t.perform act).Shut ∧ Untouched t (t.perform act) ∧
      (act ≠ .abandonPending → (t.perform act).link.pending = t.link.pending) := by
  cases act with
  | connect e =>
    rw [Transport.perform, h.connect e]
    exact ⟨h, ⟨rfl, rfl⟩, fun _ => rfl⟩
  | cycle now script =>
    rw [Transport.perform, h.cycle]
    exact ⟨h, ⟨rfl, rfl⟩, fun _ => rfl⟩
  | sendAhead p script =>
    rw [Transport.perform, h.sendAhead]
    exact ⟨h, ⟨rfl, rfl⟩, fun _ => rfl⟩
  | cleanup =>
    have stage : t.link.reset.stage = .closed := if_pos h.stage
    exact ⟨⟨stage, rfl, rfl, rfl⟩, ⟨rfl, rfl⟩, fun _ => rfl⟩
  | close =>
    have link : t.close.link = t.link := if_pos h.isClosed
    have shut : t.close.Shut :=
      ⟨by rw [link]; exact h.stage, rfl, rfl, by rw [link]; exact h.written⟩
    exact ⟨shut, ⟨congrArg Link.client link, congrArg Link.liveness link⟩,
      fun _ => congrArg Link.pending link⟩
  | steer actions =>
    exact ⟨⟨h.stage, h.dialing, h.live, h.written⟩, ⟨rfl, rfl⟩, fun _ => rfl⟩
  | abandonPending =>
    exact ⟨⟨h.stage, h.dialing, h.live, h.written⟩, ⟨rfl, rfl⟩, fun hne => absurd rfl hne⟩

theorem Shut.run [Client σ] [Backend α] (h : t.Shut) (acts : List (Act α)) :
    (t.run acts).Shut ∧ Untouched t (t.run acts) ∧
      (.abandonPending ∉ acts → (t.run acts).link.pending = t.link.pending) := by
  induction acts generalizing t with
  | nil => exact ⟨h, ⟨rfl, rfl⟩, fun _ => rfl⟩
  | cons act acts ih =>
    obtain ⟨shut, first, kept⟩ := h.perform act
    obtain ⟨shutLater, later, keptLater⟩ := ih shut
    refine ⟨shutLater, ⟨later.client.trans first.client, later.liveness.trans first.liveness⟩, ?_⟩
    intro hnone
    rw [List.mem_cons, not_or] at hnone
    have hact : act ≠ .abandonPending := fun heq => hnone.1 heq.symm
    exact (keptLater hnone.2).trans (kept hact)

theorem Shut.still [Client σ] [Carrying α] (h : t.Shut) (act : Act α) :
    ∀ op ∈ t.deeds act, op.still = true := by
  cases act with
  | connect e | cleanup | steer actions | abandonPending =>
    intro op hop
    obtain rfl := List.mem_singleton.mp hop
    rfl
  | cycle now script =>
    rw [deeds, cycleDeeds, if_pos h.isClosed]
    exact fun op hop => by cases hop
  | sendAhead p script =>
    rw [deeds, sendAheadDeeds, h.live]
    exact fun op hop => by cases hop
  | close =>
    rw [deeds, closeDeeds, if_pos h.isClosed]
    exact fun op hop => by cases hop

end Shut

/-- Everything is refused, and nothing changes by that. -/
structure Refuses (α : Type) [Client σ] [Carrying α] (t : Transport σ) : Prop where
  phase : t.link.phase = .closed
  connect : ∀ e, t.connect e = (t, some .closed)
  cycle : ∀ {ω : Type} (await : ω → Wait → Bool → Option (Moment (Signal α) × ω)) fuel now
    (around : ω), t.cycle await fuel now around = (t, around, .failed .closed)
  sendAhead : ∀ {ω : Type} (await : ω → Send → Option (Moment Sent × ω)) fuel p (around : ω),
    sendAhead (Backend.flushes α) await fuel t p around = (t, around, .failed .notConnected)
  still : ∀ act : Act α, ∀ op ∈ t.deeds act, op.still = true

/-- The transport refuses whatever is asked for, and however often; its client is called no more,
and the requests that wait for a reply go on waiting unless they are abandoned. -/
structure ShutForGood (α : Type) [Client σ] [Carrying α] (t : Transport σ) : Prop where
  refuses : ∀ later : List (Act α), (t.run later).Refuses α
  untouched : ∀ later : List (Act α), Untouched t (t.run later)
  pending : ∀ later : List (Act α), .abandonPending ∉ later →
    (t.run later).link.pending = t.link.pending

theorem Shut.forGood [Client σ] [Carrying α] {t : Transport σ} (h : t.Shut) :
    t.ShutForGood α where
  refuses later :=
    have shut := (h.run later).1
    ⟨shut.phase, shut.connect, shut.cycle, shut.sendAhead _, shut.still⟩
  untouched later := (h.run later).2.1
  pending later := (h.run later).2.2

/-! ## The cycle after a request -/

/-- What is left once a cycle has found that the transport was asked to stop. -/
def stopped (t : Transport σ) (now : Nanos) : Transport σ :=
  close { t with link := (t.link.tick now).handOver }

/-- A cycle looks at the request before it waits for anything. -/
theorem cycle_of_asked [Client σ] [Backend α] {t : Transport σ}
    (hasked : t.link.control.closing = true) (hopen : t.link.stage ≠ .closed)
    (await : ω → Wait → Bool → Option (Moment (Signal α) × ω)) (fuel : Nat) (now : Nanos)
    (around : ω) :
    t.cycle await (fuel + 1) now around = (t.stopped now, around, .finished) := by
  have hclosed : ¬t.link.isClosed = true := fun h => hopen (of_decide_eq_true h)
  have hclosing : (t.link.tick now).handOver.control.closing = true := hasked
  rw [cycle, if_neg hclosed, rounds, if_pos hclosing]
  rfl

/-- Such a cycle calls no client and moves no bytes. -/
theorem deeds_of_asked [Client σ] [Carrying α] {t : Transport σ}
    (hasked : t.link.control.closing = true) (hopen : t.link.stage ≠ .closed) (now : Nanos)
    (script : List (Moment (Signal α))) :
    t.deeds (.cycle now script) = [.tick now, .handOver, .close] := by
  have hclosed : ¬t.link.isClosed = true := fun h => hopen (of_decide_eq_true h)
  have hclosing : (t.link.tick now).handOver.control.closing = true := hasked
  have hstill : ¬(t.link.tick now).handOver.isClosed = true := hclosed
  rw [deeds, cycleDeeds, if_neg hclosed, roundsDeeds, if_pos hclosing, closeDeeds, if_neg hstill]

/-- The transport `u` is what `t` has become by stopping: nothing was said to the client or to
anybody who waits, written requests wait for their replies, and what was not written in full is in
front of the queue again, connect requests apart. -/
structure Halted (t u : Transport σ) : Prop where
  stage : u.link.stage = .closed
  dialing : u.dialing = false
  live : u.live = false
  client : u.link.client = t.link.client
  journal : u.link.journal = t.link.journal
  pending : u.link.pending = t.link.pending ++ t.link.written
  queue : u.link.control.queue =
    (t.link.outbound.packets.filter fun p => p.kind ≠ .handshake) ++
      t.link.control.queue.filter fun p => p.kind ≠ .handshake
  sent : u.link.liveness.sent = t.link.liveness.sent
  received : u.link.liveness.received = t.link.liveness.received

theorem halted_stopped {t : Transport σ} (hopen : t.link.stage ≠ .closed) (now : Nanos) :
    Halted t (t.stopped now) := by
  have hclosed : ¬(t.link.tick now).handOver.isClosed = true :=
    fun h => hopen (of_decide_eq_true h)
  have link : (t.stopped now).link = (t.link.tick now).handOver.close := if_neg hclosed
  refine ⟨?_, rfl, rfl, ?_, ?_, ?_, ?_, ?_, ?_⟩ <;> rw [link]
  · rfl
  · rfl
  · exact List.append_nil _
  · rfl
  · exact Queue.without_append ..
  · rfl
  · rfl

/-- What a transport in a state that `history` has led to does about stopping. -/
structure Stops (α : Type) [Client σ] [Carrying α] (history : List Move) (t : Transport σ) :
    Prop where
  /-- A request is never lost, and nothing else counts as one. -/
  asked : t.link.control.closing = true ↔ .close ∈ history.flatMap Move.actions
  connect : t.link.control.closing = true → ∀ e, t.connect e = (t, some .closed)
  cycle : t.link.control.closing = true → t.link.stage ≠ .closed →
    ∀ {ω : Type} (await : ω → Wait → Bool → Option (Moment (Signal α) × ω)) fuel now (around : ω),
      ∃ u, t.cycle await (fuel + 1) now around = (u, around, .finished) ∧ Halted t u ∧
        u.ShutForGood α
  quiet : t.link.control.closing = true → t.link.stage ≠ .closed →
    ∀ now (script : List (Moment (Signal α))),
      t.deeds (.cycle now script) = [.tick now, .handOver, .close]
  close : t.close.link.stage = .closed ∧ t.close.ShutForGood α
  closed : t.link.stage = .closed → t.ShutForGood α

theorem stage_close (t : Transport σ) : t.close.link.stage = .closed := by
  unfold close
  cases hclosed : t.link.isClosed with
  | true => exact of_decide_eq_true hclosed
  | false => rfl

/-- What agrees and came about by acts stops for good. -/
theorem Agrees.stops [Client σ] [Carrying α] (settings : Settings) (client : σ)
    (acts : List (Act α)) (h : ((new settings client).run acts).Agrees) :
    Stops α ((new settings client).course acts) ((new settings client).run acts) where
  asked := by
    have closing := ((new settings client).path_course acts).closing
    exact closing.trans (by simp [Link.flow, new, Link.new])
  connect hasked := connect_of_phase (phase_eq_closed_iff _ |>.mpr (.inl hasked))
  cycle hasked hopen _ await fuel now around := by
    have halted := halted_stopped hopen now
    have agrees : (stopped _ now).Agrees := agrees_close (agrees_handOver (h.beside _ _ _ _))
    exact ⟨_, cycle_of_asked hasked hopen await fuel now around, halted,
      (agrees.shut halted.stage).forGood⟩
  quiet := deeds_of_asked
  close := ⟨stage_close _, ((agrees_close h).shut (stage_close _)).forGood⟩
  closed hs := (h.shut hs).forGood

/-- **Stopping is prompt and for good, with both backends.**
    In whatever state acts have left a transport: it counts as asked to stop exactly if somebody
    asked for it, at any time; it then begins no connection and is unchanged by the attempt, and its
    next cycle ends at once, without a wait and without a fault, and leaves it closed.  Once it is
    closed, by that cycle or otherwise, it refuses whatever is asked for later. -/
theorem stops_for_good {σ : Type} [Client σ] (settings : Settings) (client : σ) :
    (∀ acts : List (Act Polling),
      Stops Polling ((new settings client).course acts) ((new settings client).run acts)) ∧
    ∀ acts : List (Act Streaming),
      Stops Streaming ((new settings client).course acts) ((new settings client).run acts) :=
  ⟨fun acts => ((agrees_run settings client).1 acts).stops,
    fun acts => ((agrees_run settings client).2 acts).stops⟩

/-- One question is written in a cycle that then fails, a second one is written in part past the
queue, a third one is queued, and then the transport is asked to stop. -/
def leaving : List (Act Streaming) :=
  hasty ++
    [.cycle 0 [just .woken, just (.traffic (.wrote 4)), just (.traffic (.failed (.plain .brokenPipe)))],
      .sendAhead { question with xid := 2 } [⟨[], 0, .wrote 2⟩, ⟨[], 0, .elapsed⟩],
      .steer [.submit { question with xid := 3 }, .close]]

theorem stops_leaving :
    Control.Action.close ∈ ((new {} SessionKeeper.anew).course leaving).flatMap Move.actions ∧
      ∃ u, ((new {} SessionKeeper.anew).run leaving).cycle (α := Streaming)
          (fun script _ _ => line? script) 1 0 [] = (u, [], .finished) ∧
        u.link.pending = [question] ∧
        u.link.control.queue = [{ question with xid := 2 }, { question with xid := 3 }] ∧
        (u.connect ⟨.v4 0, 0⟩).2 = some .closed := by
  have hclose : Control.Action.close ∈
      ((new {} SessionKeeper.anew).course leaving).flatMap Move.actions := by decide +kernel
  have hopen : ((new {} SessionKeeper.anew).run leaving).link.stage ≠ .closed := by decide +kernel
  have stops := (stops_for_good {} SessionKeeper.anew).2 leaving
  have hasked := stops.asked.mpr hclose
  obtain ⟨u, hcycle, halted, good⟩ :=
    stops.cycle hasked hopen (fun script _ _ => line? script) 0 0 []
  refine ⟨hclose, u, hcycle, ?_, ?_, ?_⟩
  · rw [halted.pending]
    decide +kernel
  · rw [halted.queue]
    decide +kernel
  · exact congrArg Prod.snd ((good.refuses []).connect ⟨.v4 0, 0⟩)

end Transport

end Reconnect
