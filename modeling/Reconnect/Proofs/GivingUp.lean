import Reconnect.Proofs.Fates
import Reconnect.Proofs.Lockstep

/-!
# Giving up a connection

A connection can be lost at any byte.  What was framed for it goes back to the queue, in front of
what has come since, and is sent again in full; what was written is lost with it, and whoever waits
for it is told so.  Connect requests are thrown away, wherever they are: each belongs to the
connection that it was made for.

## Protocol

* Framed packets go back to the front of the queue one by one, the last of them first.
* Of a link that has come somewhere by a run, the packets that are not written in full are known
  with the bytes that are left of them, and the written requests with what became of them.

## Results

* `Control.requeue_eq_runActions`: packets that go back one by one come to stand in their order.
* `Link.control_reset`: connect requests that are left out on the way and those that are taken out
  of the queue are left out of both.
* `Link.reset_reset`: giving up what is given up changes nothing.
* `Link.gives_up_exactly`: **a link that gives up its connection keeps every packet in its place,
  fails each written request once, and forgets all else of the connection**.
-/

namespace Reconnect

namespace Control

theorem runActions_append (c : Control) (actions more : List Action) :
    c.runActions (actions ++ more) = (c.runActions actions).runActions more := List.foldl_append

/-- Packets that are put in front one by one, the last of them first, come to stand in their
order. -/
theorem requeue_eq_runActions (c : Control) (ps : List Packet) :
    c.requeue ps = c.runActions (ps.reverse.map .pushFront) := by
  induction ps with
  | nil => rfl
  | cons p ps ih =>
    rw [List.reverse_cons, List.map_append, runActions_append, ← ih]
    rfl

end Control

namespace Outbound

/-- What is left of the packets that are not written in full: of the first one all or the end, and
the others as a whole. -/
theorem Carries.front {o : Outbound} {gone : Bytes} {framed done : List Packet}
    (c : o.Carries gone framed done) :
    ∃ lost, lost ++ o.bytes = wire o.packets ∧
      ∀ p, o.packets.head? = some p → lost.length < (Frame.encode p.body).length := by
  have hstep := c.step
  have htorn := c.torn
  unfold Outbound.packets
  cases hframes : o.frames with
  | nil =>
    rw [hframes] at hstep
    exact ⟨[], hstep, fun p hp => nomatch hp⟩
  | cons f frames =>
    rw [hframes] at hstep htorn
    obtain ⟨hpos, hle, hwhole⟩ := htorn
    rw [List.flatMap_cons, rest_eq_wire hwhole] at hstep
    refine ⟨f.frame.take (f.frame.length - f.left), ?_, fun p hp => ?_⟩
    · rw [hstep, Unwritten.rest, ← List.append_assoc, List.take_append_drop, List.map_cons,
        wire_cons, Unwritten.frame]
    · obtain rfl := Option.some.inj hp
      change _ < f.frame.length
      rw [List.length_take]
      omega

end Outbound

namespace Link

variable {σ : Type}

/-- Connect requests that are left out on the way to the queue and those that are taken out of the
queue are left out of both. -/
theorem control_reset (l : Link σ) :
    l.reset.control = { l.control with
      queue := Queue.without .handshake (l.control.runActions
        ((Queue.without .handshake l.outbound.packets).reverse.map .pushFront)).queue } := by
  rw [← Control.requeue_eq_runActions]
  simp only [reset, Control.requeue, Queue.without_append, Queue.without_without]

/-- A link that has given up its connection is only told by its stage from one that does so
again. -/
theorem reset_again (l : Link σ) (stage : Stage) (h : stage = .closed ∨ stage = .disconnected) :
    reset { l.reset with stage } = { l.reset with stage } := by
  have hstage : (if stage = .closed then Stage.closed else .disconnected) = stage := by
    rcases h with rfl | rfl <;> rfl
  -- no connect request is queued any more, and no written request is left to fail
  have hqueue : Queue.without .handshake (l.reset.outbound.packets ++ l.reset.control.queue) =
      l.reset.control.queue := Queue.without_without _ _
  have hjournal : l.reset.journal ++ l.reset.written.map lost = l.reset.journal :=
    List.append_nil _
  unfold reset at hqueue hjournal ⊢
  dsimp only at hqueue hjournal ⊢
  rw [hstage, hqueue, hjournal]
  rfl

/-- **Giving up what is given up changes nothing.** -/
theorem reset_reset (l : Link σ) : l.reset.reset = l.reset := by
  refine l.reset_again l.reset.stage ?_
  unfold reset
  dsimp only
  split
  · exact .inl rfl
  · exact .inr rfl

/-- A link that is shut down has nothing left to give up. -/
theorem reset_close (l : Link σ) : l.close.reset = l.close := l.reset_again .closed (.inl rfl)

/-- What has become of a link that has given up its connection. -/
structure GivenUp (l m : Link σ) : Prop where
  /-- Framed packets are in front of those that were queued, without connect requests, all in
  their order. -/
  queue : m.control.queue = (l.outbound.packets.filter fun p => p.kind ≠ .handshake) ++
    l.control.queue.filter fun p => p.kind ≠ .handshake
  /-- They have come there one by one, the last of them first, and then the connect requests that
  were queued have been taken out. -/
  requeued : m.control.queue = (l.control.runActions
    ((l.outbound.packets.filter fun p => p.kind ≠ .handshake).reverse.map
      .pushFront)).queue.filter fun p => p.kind ≠ .handshake
  /-- Each written request fails once, in the order in which they were written, and nothing else
  is seen. -/
  journal : m.journal = l.journal ++ l.written.map fun p => .completed p (.failure .peerClosed)
  outbound : m.outbound = {}
  written : m.written = []
  inbox : m.inbox = [] ∧ m.block.held = 0
  expected : m.decoder = { l.decoder with expected := none }
  localEnd : m.localEnd = none
  stage : m.stage = if l.stage = .closed then .closed else .disconnected
  /-- All else is as it was. -/
  kept : m.settings = l.settings ∧ m.sessionId = l.sessionId ∧ m.remote = l.remote ∧
    m.liveness = l.liveness ∧ m.pending = l.pending ∧ m.client = l.client
  /-- The gates are as they were, and so are the flags beside them. -/
  control : m.control = { l.control with queue := m.control.queue }

theorem givenUp_reset (l : Link σ) : GivenUp l l.reset where
  queue := Queue.without_append ..
  requeued := congrArg Control.queue l.control_reset
  journal := rfl
  outbound := rfl
  written := rfl
  inbox := ⟨rfl, rfl⟩
  expected := rfl
  localEnd := rfl
  stage := rfl
  kept := ⟨rfl, rfl, rfl, rfl, rfl, rfl⟩
  control := rfl

/-- **A lost connection costs the written requests and nothing else.**
    In every run, wherever the connection is given up: the packets that were framed and not written
    in full go back to the front of the queue, in their order, and with them the one of whose frame
    a part has left already; connect requests are left out, framed or queued.  The written requests
    are all that have been neither handed over nor failed, and each fails once, in their order.  All
    else that belongs to the connection is forgotten, and all that does not is as it was.  Giving
    up the connection again changes nothing. -/
theorem gives_up_exactly [Client σ] (settings : Settings) (client : σ) (ops : List Op) :
    GivenUp ((new settings client).run ops) ((new settings client).run ops).reset ∧
    ((new settings client).run ops).reset.reset = ((new settings client).run ops).reset ∧
    ((new settings client).run ops).close.reset = ((new settings client).run ops).close ∧
    (∃ gone, gone ++ ((new settings client).run ops).outbound.bytes =
        wire ((new settings client).run ops).outbound.packets ∧
      ∀ p, ((new settings client).run ops).outbound.packets.head? = some p →
        gone.length < (Frame.encode p.body).length) ∧
    (∀ p ∈ ((new settings client).run ops).written, p.kind = .request) ∧
    Move.requests ((new settings client).course ops) =
      ((new settings client).course (ops ++ [.reset])).flatMap Move.settled := by
  have fated := fated_course settings client ops
  refine ⟨givenUp_reset _, reset_reset _, reset_close _, (onWire_run settings client ops).1.front,
    fun p hp => fated.kind p (List.mem_append_right _ hp), ?_⟩
  rw [fated.settled, course_append, List.flatMap_append]
  simp [moves, Move.settled, Move.failed]

end Link

end Reconnect
