import Reconnect.Proofs.Moves

/-!
# Where the packets are

A flow is what a link knows of its packets and gates: how far the connection has come, the control
with the queue, the packets that are framed, and the requests that were written and not handed
over.  `Flow.Step` says, move by move, what can happen to it and when.

## Results

* `Link.path_step`, `Link.path_run`: **every operation and every run of a link is a path of its
  flow**, along the moves that it comes to.  What holds along all paths of flows therefore holds in
  every run of a link, whatever the order of its operations.
* `Flow.Path.invariant`: what holds at the start of a path and is kept by each of its steps holds
  at its end, which may ask something of the moves.
* `Flow.Path.at_move`: a move of a path is a step from where the moves before it lead.
-/

namespace Reconnect

/-- What a link knows of its packets and gates. -/
structure Flow where
  stage : Stage
  control : Control
  /-- The packets that are framed and not written in full. -/
  outbound : List Packet
  /-- The requests that were written in full and not handed over. -/
  written : List Packet

namespace Flow

/-- What may leave the queue now. -/
def passes (f : Flow) (kind : Kind) : Bool :=
  kind.passes (f.stage = .ready) f.control.authPending

/-- The requests that wait for a reply once the packet is written. -/
def awaited (p : Packet) : List Packet := [p].filter fun p => p.kind.expectsReply

/-- What a move does to a flow, and when it can happen. -/
inductive Step : Flow → Move → Flow → Prop where
  | began {f : Flow} (b : Bool) :
    Step f (.began b) { f with stage := .connecting, control := f.control.restart b }
  | opened {f : Flow} (actions : List Control.Action) :
    Step f (.opened f.stage actions)
      { f with stage := .handshaking, control := f.control.runActions actions }
  | answered {f : Flow} (response : Session.Response) (actions : List Control.Action) :
    f.stage = .handshaking →
    Step f (.answered response actions)
      { f with stage := .ready, control := f.control.runActions actions }
  | received {f : Flow} (pending : List Packet) (frame : Bytes) (actions : List Control.Action) :
    f.stage ≠ .handshaking →
    Step f (.received pending frame actions) { f with control := f.control.runActions actions }
  | steered {f : Flow} (actions : List Control.Action) :
    Step f (.steered actions) { f with control := f.control.runActions actions }
  | calmed {f : Flow} : Step f .calmed { f with control := { f.control with woken := false } }
  | framed {f : Flow} {p : Packet} {rest : Queue} :
    Queue.pop f.passes f.control.queue = some (p, rest) →
    Step f (.framed p)
      { f with control := { f.control with queue := rest }, outbound := f.outbound ++ [p] }
  | pushed {f : Flow} (p : Packet) : Step f (.pushed p) { f with outbound := f.outbound ++ [p] }
  | finished {f : Flow} {p : Packet} {rest : List Packet} :
    f.outbound = p :: rest →
    Step f (.finished p) { f with outbound := rest, written := f.written ++ awaited p }
  | handed {f : Flow} {p : Packet} {rest : List Packet} :
    f.written = p :: rest → Step f (.handed p) { f with written := rest }
  | reset {f : Flow} :
    Step f (.reset f.written) { f with
      stage := if f.stage = .closed then .closed else .disconnected
      control := { f.control with
        queue := Queue.without .handshake (f.outbound ++ f.control.queue) }
      outbound := []
      written := [] }
  | closed {f : Flow} : Step f .closed { f with stage := .closed }

/-- Moves one after the other. -/
inductive Path (f : Flow) : List Move → Flow → Prop where
  | nil : Path f [] f
  | snoc {h : List Move} {g k : Flow} {m : Move} : Path f h g → Step g m k → Path f (h ++ [m]) k

namespace Path

theorem single {f g : Flow} {m : Move} (s : Step f m g) : Path f [m] g := .snoc .nil s

theorem append {f g k : Flow} {h h' : List Move} (p : Path f h g) (q : Path g h' k) :
    Path f (h ++ h') k := by
  induction q with
  | nil => rwa [List.append_nil]
  | snoc _ s ih =>
    rw [← List.append_assoc]
    exact ih.snoc s

theorem cons {f g k : Flow} {m : Move} {h : List Move} (s : Step f m g) (q : Path g h k) :
    Path f (m :: h) k := (single s).append q

/-- What holds at the start and is kept by each step holds at the end, if every move of the path is
of the kind that keeps it. -/
theorem invariant {I : List Move → Flow → Prop} {P : Move → Prop} {f g : Flow} {h : List Move}
    (p : Path f h g) (moves : ∀ m ∈ h, P m) (start : I [] f)
    (step : ∀ {h g m k}, I h g → P m → Step g m k → I (h ++ [m]) k) : I h g := by
  induction p with
  | nil => exact start
  | @snoc h g k m _ s ih =>
    exact step (ih fun m' hm' => moves m' (List.mem_append_left _ hm')) (moves m (by simp)) s

/-- A path along two courses goes along the first and then along the second. -/
theorem split {f g : Flow} {h h' : List Move} (p : Path f (h ++ h') g) :
    ∃ k, Path f h k ∧ Path k h' g := by
  generalize hc : h ++ h' = course at p
  induction p generalizing h' with
  | nil =>
    obtain ⟨rfl, rfl⟩ := List.append_eq_nil_iff.mp hc
    exact ⟨f, .nil, .nil⟩
  | @snoc c g k m p s ih =>
    rcases List.eq_nil_or_concat h' with rfl | ⟨t, x, rfl⟩
    · rw [List.append_nil] at hc
      subst hc
      exact ⟨k, p.snoc s, .nil⟩
    · rw [List.concat_eq_append, ← List.append_assoc] at hc
      obtain ⟨hfront, hx⟩ := List.append_inj' hc rfl
      simp only [List.cons.injEq, and_true] at hx
      subst hx
      obtain ⟨j, hj, hk⟩ := ih hfront
      exact ⟨j, hj, by rw [List.concat_eq_append]; exact hk.snoc s⟩

/-- A move of a path is a step from where the moves before it lead. -/
theorem at_move {f g : Flow} {before after : List Move} {m : Move}
    (p : Path f (before ++ m :: after) g) :
    ∃ k j, Path f before k ∧ Step k m j ∧ Path j after g := by
  rw [List.append_cons] at p
  obtain ⟨j, hj, ha⟩ := p.split
  generalize hc : before ++ [m] = course at hj
  cases hj with
  | nil => simp at hc
  | snoc hb s =>
    obtain ⟨rfl, hm⟩ := List.append_inj' hc rfl
    simp only [List.cons.injEq, and_true] at hm
    subst hm
    exact ⟨_, j, hb, s, ha⟩

end Path

/-! ## Packets one by one -/

/-- Packets that leave the queue are framed in the order in which they leave it. -/
theorem path_framed (f : Flow) (n : Nat) :
    Path f ((Queue.popMany f.passes n f.control.queue).1.map .framed)
      { f with
        control := { f.control with queue := (Queue.popMany f.passes n f.control.queue).2 }
        outbound := f.outbound ++ (Queue.popMany f.passes n f.control.queue).1 } := by
  induction n generalizing f with
  | zero =>
    simp only [Queue.popMany, List.map_nil, List.append_nil]
    exact .nil
  | succ n ih =>
    cases hp : Queue.pop f.passes f.control.queue with
    | none =>
      simp only [Queue.popMany, hp, List.map_nil, List.append_nil]
      exact .nil
    | some found =>
      obtain ⟨p, rest⟩ := found
      have others := ih { f with
        control := { f.control with queue := rest }, outbound := f.outbound ++ [p] }
      simp only [List.append_assoc, List.singleton_append] at others
      simp only [Queue.popMany, hp, List.map_cons]
      exact .cons (.framed hp) others

/-- Frames are finished from the front on. -/
theorem path_finished (f : Flow) (done rest : List Packet) (ho : f.outbound = done ++ rest) :
    Path f (done.map .finished)
      { f with
        outbound := rest
        written := f.written ++ done.filter fun p => p.kind.expectsReply } := by
  induction done generalizing f with
  | nil =>
    obtain rfl : f.outbound = rest := ho
    simp only [List.map_nil, List.filter_nil, List.append_nil]
    exact .nil
  | cons p done ih =>
    have others := ih { f with outbound := done ++ rest, written := f.written ++ awaited p } rfl
    rw [List.append_assoc, awaited, ← List.filter_append, List.singleton_append] at others
    exact .cons (.finished ho) others

/-- Written requests are handed over one by one. -/
theorem path_handed (f : Flow) : Path f (f.written.map .handed) { f with written := [] } := by
  obtain ⟨stage, control, outbound, written⟩ := f
  induction written with
  | nil => exact .nil
  | cons p rest ih => exact .cons (.handed rfl) ih

end Flow

namespace Link

variable {σ : Type}

/-- What a link knows of its packets and gates. -/
def flow (l : Link σ) : Flow where
  stage := l.stage
  control := l.control
  outbound := l.outbound.packets
  written := l.written

theorem passes_flow (l : Link σ) : l.flow.passes = l.passes := by
  funext kind
  rfl

theorem packets_foldl_push (o : Outbound) (ps : List Packet) :
    (ps.foldl Outbound.push o).packets = o.packets ++ ps := by
  induction ps generalizing o with
  | nil => simp
  | cons p ps ih => simp [ih]

/-! ## Operations as paths -/

theorem path_reset (l : Link σ) : Flow.Path l.flow [.reset l.written] l.reset.flow :=
  .single .reset

theorem path_connect (l : Link σ) (e : Endpoint) [Client σ] :
    Flow.Path l.flow (l.moves (.connect e)) (l.connect e).1.flow := by
  simp only [moves, connect]
  split
  · exact .nil
  · exact l.path_reset.snoc (.began _)

theorem path_dispatch [Client σ] (l : Link σ) (payload : Bytes) :
    Flow.Path l.flow (l.dispatchMoves payload) (l.dispatch payload).1.flow := by
  unfold dispatchMoves dispatch accept
  by_cases hs : l.stage = .handshaking
  · simp only [if_pos hs]
    cases Session.Response.decode payload with
    | error cause => exact .nil
    | ok response => exact .single (.answered response _ hs)
  · simp only [if_neg hs]
    exact .single (.received _ _ _ hs)

theorem path_process [Client σ] (l : Link σ) :
    Flow.Path l.flow l.processMoves l.process.1.flow := by
  induction l using process_rec with
  | incomplete l h | invalid l fault h =>
    rw [process_eq, processMoves_eq, h]
    exact .nil
  | refused l payload fault h hd =>
    have called := l.counted.path_dispatch payload
    rw [process_refused h hd, processMoves_refused h hd]
    exact called
  | next l payload h hd ih =>
    have called := l.counted.path_dispatch payload
    rw [process_next h hd, processMoves_next h hd]
    exact called.append ih

/-- **An operation is a path along the moves that it comes to.** -/
theorem path_step [Client σ] (l : Link σ) (op : Op) :
    Flow.Path l.flow (l.moves op) (l.step op).1.flow := by
  cases op with
  | connect e => exact l.path_connect e
  | established localEnd now => exact .single (.opened _)
  | process => exact l.path_process
  | fill =>
    have framed := l.flow.path_framed (l.settings.drainLimit - l.outbound.size)
    rw [passes_flow] at framed
    simp only [moves, step, fill, flow, packets_foldl_push]
    exact framed
  | pushAhead p =>
    simp only [moves, step, pushAhead, flow, Outbound.packets_push]
    exact .single (.pushed p)
  | wrote n => exact l.flow.path_finished _ _ (l.outbound.packets_settle n).symm
  | handOver => exact l.flow.path_handed
  | reset => exact l.path_reset
  | close => exact l.path_reset.snoc .closed
  | steer actions => exact .single (.steered actions)
  | calm => exact .single .calmed
  | makeRoom | heard data | tick now | abandonPending => exact .nil

/-- **A run is a path along its course**, whatever the order of its operations. -/
theorem path_run [Client σ] (l : Link σ) (ops : List Op) :
    Flow.Path l.flow (l.course ops) (l.run ops).flow := by
  induction ops generalizing l with
  | nil => exact .nil
  | cons op ops ih => exact (l.path_step op).append (ih (l.step op).1)

end Link

end Reconnect
