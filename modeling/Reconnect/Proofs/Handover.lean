import Reconnect.Proofs.Conservation
import Reconnect.Proofs.Reading

/-!
# Requests are handed over before their replies arrive

A request whose frame is written in full waits in a list of its own until it is handed over to the
requests that wait for a reply.  A reply that arrives before that finds nobody waiting for it.
Requests are handed over when a cycle begins and when it ends, so what matters is what a cycle does
before it reads.

## Results

* `Flow.Path.owed`: on every connection, the requests that were written are those that were handed
  over and those that wait to be.
* `Link.pending_processMoves`: what the first frame is handed over with.
* `Transport.written_eq_handed`: **whenever a client is handed a frame, the requests that were
  written on this connection are handed over, except for those that were written in the same
  cycle**; with streams that report readiness there are none of these.
* `Transport.reply_overtakes`: with streams that complete reads and writes there can be some.
-/

namespace Reconnect

namespace Move

/-- The request whose frame is written in full. -/
def request? : Move → Option Packet
  | finished p => if p.kind.expectsReply then some p else none
  | _ => none

/-- The request that waits for its reply from now on. -/
def handed? : Move → Option Packet
  | handed p => some p
  | _ => none

/-- A client is handed a frame. -/
def receives : Move → Bool
  | received _ _ _ => true
  | _ => false

/-- The connection is given up. -/
def resets : Move → Bool
  | reset _ => true
  | _ => false

/-- What has happened since a connection was last given up. -/
def sinceReset (h : List Move) : List Move := h.rtakeWhile fun m => !m.resets

theorem sinceReset_concat (h : List Move) (m : Move) :
    sinceReset (h ++ [m]) = if m.resets then [] else sinceReset h ++ [m] :=
  rtakeWhile_not_concat resets h m

/-- The requests that were written, in order. -/
def requests (h : List Move) : List Packet := h.filterMap request?

theorem requests_append (h k : List Move) : requests (h ++ k) = requests h ++ requests k :=
  List.filterMap_append

/-- The requests that were handed over, in order. -/
def handedOver (h : List Move) : List Packet := h.filterMap handed?

theorem handedOver_append (h k : List Move) :
    handedOver (h ++ k) = handedOver h ++ handedOver k := List.filterMap_append

/-- Written requests stay where they are. -/
def retains : Move → Bool
  | handed _ | reset _ => false
  | _ => true

theorem retains_of_calls {m : Move} (h : m.calls = true) : m.retains = true := by
  cases m <;> first | rfl | cases h

theorem request?_of_calls {m : Move} (h : m.calls = true) : m.request? = none := by
  cases m <;> first | rfl | cases h

end Move

namespace Flow

open Move

/-- One move appends a written request at one end, hands one over at the other, or keeps them all,
unless it gives up the connection. -/
theorem Step.written {f g : Flow} {m : Move} (s : Step f m g) (hm : m.resets = false) :
    f.written ++ requests [m] = handedOver [m] ++ g.written := by
  cases s with
  | reset => cases hm
  | @finished p rest ho =>
    have hp : requests [.finished p] = awaited p := by
      unfold requests awaited
      cases hk : p.kind.expectsReply <;> simp [request?, hk]
    rw [hp]
    rfl
  | handed hw =>
    rw [hw]
    exact List.append_nil _
  | began b | opened actions | answered response actions hs | received pending frame actions hs
  | steered actions | calmed | framed hpop | pushed p | closed => exact List.append_nil _

theorem Step.owed {f g : Flow} {h : List Move} {m : Move} (s : Step f m g)
    (owed : requests (sinceReset h) = handedOver (sinceReset h) ++ f.written) :
    requests (sinceReset (h ++ [m])) = handedOver (sinceReset (h ++ [m])) ++ g.written := by
  rw [sinceReset_concat]
  cases hm : m.resets with
  | true =>
    cases s with
    | reset => rfl
    | _ => cases hm
  | false =>
    calc requests (sinceReset h ++ [m])
        = handedOver (sinceReset h) ++ (f.written ++ requests [m]) := by
          rw [requests_append, owed, List.append_assoc]
      _ = handedOver (sinceReset h) ++ (handedOver [m] ++ g.written) := by rw [s.written hm]
      _ = handedOver (sinceReset h ++ [m]) ++ g.written := by
          rw [handedOver_append, List.append_assoc]

/-- **On every connection, the requests that were written are those that were handed over and those
that wait to be.** -/
theorem Path.owed {f g : Flow} {h : List Move} (path : Path f h g) (hf : f.written = []) :
    requests (sinceReset h) = handedOver (sinceReset h) ++ g.written := by
  induction path with
  | nil =>
    rw [hf]
    rfl
  | snoc _ s ih => exact s.owed ih

/-- As long as nothing is handed over and no connection given up, the requests that are written
pile up. -/
theorem Path.retained {f g : Flow} {h : List Move} (path : Path f h g)
    (hr : ∀ m ∈ h, m.retains = true) : g.written = f.written ++ requests h := by
  refine path.invariant (I := fun h g => g.written = f.written ++ requests h) hr
    (List.append_nil _).symm fun {h g m k} before hm s => ?_
  have hresets : m.resets = false := by cases m <;> first | rfl | cases hm
  have hnone : handedOver [m] = [] := by cases m <;> first | rfl | cases hm
  have hlast := s.written hresets
  rw [hnone, List.nil_append, before, List.append_assoc, ← requests_append] at hlast
  exact hlast.symm

end Flow

namespace Link

variable {σ : Type}

open Move

theorem pending_of_received [Client σ] {l : Link σ} {payload frame : Bytes}
    {pending : List Packet} {actions : List Control.Action}
    (h : .received pending frame actions ∈ l.dispatchMoves payload) : pending = l.pending := by
  unfold dispatchMoves at h
  split at h
  · split at h <;> simp at h
  · simp only [List.mem_singleton, received.injEq] at h
    exact h.1

/-- As long as the client is handed no frame, the same requests wait for a reply. -/
theorem pending_dispatch [Client σ] {l : Link σ} {payload : Bytes}
    (h : ∀ m ∈ l.dispatchMoves payload, m.receives = false) :
    (l.dispatch payload).1.pending = l.pending := by
  unfold dispatchMoves at h
  unfold dispatch accept
  by_cases hs : l.stage = .handshaking
  · simp only [if_pos hs]
    split <;> rfl
  · rw [if_neg hs] at h
    have hreceived := h _ (List.mem_singleton_self _)
    cases hreceived

/-- The first frame that is handed to the client comes with the requests that wait for a reply when
processing begins. -/
theorem pending_processMoves [Client σ] {l : Link σ} {early late : List Move}
    {pending : List Packet} {frame : Bytes} {actions : List Control.Action}
    (h : l.processMoves = early ++ .received pending frame actions :: late)
    (first : ∀ m ∈ early, m.receives = false) : pending = l.pending := by
  induction l using process_rec generalizing early with
  | incomplete l hfound | invalid l fault hfound =>
    rw [processMoves_eq, hfound] at h
    simp at h
  | refused l payload fault hfound hd =>
    rw [processMoves_refused hfound hd] at h
    have hmem : .received pending frame actions ∈ l.counted.dispatchMoves payload := by
      rw [h]
      simp
    exact pending_of_received hmem
  | next l payload hfound hd ih =>
    rw [processMoves_next hfound hd] at h
    rcases append_eq_append_cons h with ⟨late, hmoves, -⟩ | ⟨more, he, hrest⟩
    · have hmem : .received pending frame actions ∈ l.counted.dispatchMoves payload := by
        rw [hmoves]
        simp
      exact pending_of_received hmem
    · have hkept : (l.counted.dispatch payload).1.pending = l.counted.pending :=
        pending_dispatch fun m hm => first m (by rw [he]; exact List.mem_append_left _ hm)
      exact (ih hrest fun m hm => first m (by rw [he]; exact List.mem_append_right _ hm)).trans
        hkept

theorem pending_run_early [Client σ] (l : Link σ) {ops : List Op}
    (h : ∀ op ∈ ops, op.early = true) : (l.run ops).pending = l.pending := by
  induction ops generalizing l with
  | nil => rfl
  | cons op ops ih =>
    have hstep : (l.step op).1.pending = l.pending := by
      have hop := h op List.mem_cons_self
      cases op <;> first | rfl | cases hop
    rw [run_cons, ih _ fun op hop => h op (List.mem_cons_of_mem _ hop), hstep]

theorem retains_moves [Client σ] (l : Link σ) {op : Op} (h : op.early = true) :
    ∀ m ∈ l.moves op, m.retains = true := by
  intro m hm
  cases op with
  | fill | wrote n =>
    obtain ⟨p, -, rfl⟩ := List.mem_map.mp hm
    rfl
  | established localEnd now | steer actions | calm =>
    obtain rfl := List.mem_singleton.mp hm
    rfl
  | makeRoom | heard data | tick now => cases hm
  | connect e | process | pushAhead p | handOver | reset | close | abandonPending => cases h

theorem request?_moves [Client σ] (l : Link σ) {op : Op} (h : op.idle = true) :
    ∀ m ∈ l.moves op, m.request? = none := by
  intro m hm
  cases op with
  | fill =>
    obtain ⟨p, -, rfl⟩ := List.mem_map.mp hm
    rfl
  | established localEnd now | steer actions | calm =>
    obtain rfl := List.mem_singleton.mp hm
    rfl
  | makeRoom | heard data | tick now => cases hm
  | connect e | process | pushAhead p | wrote n | handOver | reset | close | abandonPending =>
    cases h

end Link

namespace Transport

variable {σ α : Type}

open Link Move

/-- What is handed to a client within an act, if it is known what the act does before it reads. -/
theorem requests_eq_handedOver_append [Client σ] [Carrying α] (settings : Settings) (client : σ)
    (hreport : ∀ (t : Transport σ) (report : α),
      BeforeProcess (fun op => op.early = true) (Carrying.deeds t report))
    (hagain : ∀ (t : Transport σ) (report : α), (Backend.carry t report).2 = .again →
      ∀ op ∈ Carrying.deeds t report, op.early = true)
    {acts : List (Act α)} {act : Act α} {before after : List Move} {pending : List Packet}
    {frame : Bytes} {actions : List Control.Action}
    (h : ((new settings client).run acts).moves act =
      before ++ .received pending frame actions :: after) :
    requests (sinceReset ((new settings client).course acts ++ before)) =
        handedOver (sinceReset ((new settings client).course acts ++ before)) ++
          requests before ∧
      ((∀ m ∈ before, m.receives = false) →
        pending = ((new settings client).run acts).link.pending ++
          ((new settings client).run acts).link.written) := by
  obtain ⟨now, work, early, late, hwork, hmoves, rfl⟩ :=
    received_split (fun _ => Op.early_of_idle) hreport hagain h
  have toStart := (new settings client).path_course acts
  generalize (new settings client).run acts = t at *
  let begun := (t.link.tick now).handOver
  constructor
  · have toBegun : Flow.Path t.link.flow (t.link.written.map .handed) begun.flow :=
      (t.link.tick now).flow.path_handed
    have toEnd := (begun.run work).path_process
    rw [hmoves] at toEnd
    obtain ⟨moment, -, hearly, -, -⟩ := toEnd.at_move
    have inCycle : Flow.Path begun.flow (begun.course work ++ early) moment :=
      (begun.path_run work).append hearly
    have hretains : ∀ m ∈ begun.course work ++ early, m.retains = true := by
      intro m hm
      rcases List.mem_append.mp hm with hm | hm
      · exact mem_course (fun l op hop => l.retains_moves (hwork op hop)) m hm
      · refine Move.retains_of_calls ((begun.run work).calls_processMoves m ?_)
        rw [hmoves]
        exact List.mem_append_left _ hm
    have hnone : requests (t.link.written.map .handed) = [] := by
      rw [requests, List.filterMap_map]
      exact List.filterMap_eq_nil_iff.mpr fun p _ => rfl
    have hwritten : moment.written =
        requests (t.link.written.map .handed ++ (begun.course work ++ early)) := by
      rw [inCycle.retained hretains, requests_append (t.link.written.map .handed), hnone]
      rfl
    rw [← hwritten]
    exact (toStart.append (toBegun.append inCycle)).owed rfl
  · intro first
    have hfirst : ∀ m ∈ early, m.receives = false := fun m hm =>
      first m (List.mem_append_right _ (List.mem_append_right _ hm))
    calc pending = (begun.run work).pending := pending_processMoves hmoves hfirst
      _ = begun.pending := begun.pending_run_early hwork
      _ = t.link.pending ++ t.link.written := rfl

/-- If nothing is written in a cycle before it reads, no request is. -/
theorem requests_eq_nil [Client σ] [Carrying α]
    (hreport : ∀ (t : Transport σ) (report : α),
      BeforeProcess (fun op => op.idle = true) (Carrying.deeds t report))
    (hagain : ∀ (t : Transport σ) (report : α), (Backend.carry t report).2 ≠ .again)
    {t : Transport σ} {act : Act α} {before after : List Move} {pending : List Packet}
    {frame : Bytes} {actions : List Control.Action}
    (h : t.moves act = before ++ .received pending frame actions :: after) :
    requests before = [] := by
  obtain ⟨now, work, early, late, hwork, hmoves, rfl⟩ := received_split (fun _ hop => hop) hreport
    (fun t report hnext => absurd hnext (hagain t report)) h
  refine List.filterMap_eq_nil_iff.mpr fun m hm => ?_
  rcases List.mem_append.mp hm with hm | hm
  · obtain ⟨p, -, rfl⟩ := List.mem_map.mp hm
    rfl
  · rcases List.mem_append.mp hm with hm | hm
    · exact mem_course (fun l op hop => l.request?_moves (hwork op hop)) m hm
    · refine Move.request?_of_calls (((t.link.tick now).handOver.run work).calls_processMoves m ?_)
      rw [hmoves]
      exact List.mem_append_left _ hm

/-- **What a client is handed a frame with.**
    At the moment when a transport hands a frame to its client, the requests that were written in
    full on this connection are those that were handed over, and behind them those that were
    written in the same cycle.  With a stream that reports readiness there are none of these.  With
    a stream that completes reads and writes, the requests of this connection are all handed over
    exactly if the cycle has not written one before it read.  The first frame of a cycle comes with
    the requests that waited for a reply before the cycle, and behind them those that were written
    before it. -/
theorem written_eq_handed [Client σ] (settings : Settings) (client : σ) :
    (∀ (acts : List (Act Polling)) (act : Act Polling) (before after : List Move)
      (pending : List Packet) (frame : Bytes) (actions : List Control.Action),
      ((new settings client).run acts).moves act =
        before ++ .received pending frame actions :: after →
      requests (sinceReset ((new settings client).course acts ++ before)) =
        handedOver (sinceReset ((new settings client).course acts ++ before)) ∧
      ((∀ m ∈ before, m.receives = false) →
        pending = ((new settings client).run acts).link.pending ++
          ((new settings client).run acts).link.written)) ∧
    (∀ (acts : List (Act Streaming)) (act : Act Streaming) (before after : List Move)
      (pending : List Packet) (frame : Bytes) (actions : List Control.Action),
      ((new settings client).run acts).moves act =
        before ++ .received pending frame actions :: after →
      requests (sinceReset ((new settings client).course acts ++ before)) =
        handedOver (sinceReset ((new settings client).course acts ++ before)) ++
          requests before ∧
      (requests (sinceReset ((new settings client).course acts ++ before)) =
        handedOver (sinceReset ((new settings client).course acts ++ before)) ↔
          requests before = []) ∧
      ((∀ m ∈ before, m.receives = false) →
        pending = ((new settings client).run acts).link.pending ++
          ((new settings client).run acts).link.written)) := by
  refine ⟨fun acts act before after pending frame actions h => ?_,
    fun acts act before after pending frame actions h => ?_⟩
  · obtain ⟨hsplit, hpending⟩ := requests_eq_handedOver_append settings client
      (fun t report => (Polling.beforeProcess_deeds t report).mono fun _ => Op.early_of_idle)
      (fun t report hagain => absurd hagain (Polling.carry_ne_again t report)) h
    rw [requests_eq_nil Polling.beforeProcess_deeds Polling.carry_ne_again h,
      List.append_nil] at hsplit
    exact ⟨hsplit, hpending⟩
  · obtain ⟨hsplit, hpending⟩ := requests_eq_handedOver_append settings client
      (fun t report => (Streaming.beforeProcess_deeds t report).mono fun _ => Op.early_of_idle)
      (fun _ _ => Streaming.early_deeds) h
    refine ⟨hsplit, ?_, hpending⟩
    rw [hsplit, List.append_right_eq_self]

/-- A request, and the reply to it. -/
def question : Packet := { kind := .request, xid := 1, body := [] }

def reply : Bytes := Bytes.ofInt32 question.xid ++ Bytes.ofInt64 0 ++ Bytes.ofInt32 0

/-- A moment without anything but its signal. -/
def just {α : Type} (signal : Signal α) : Moment (Signal α) := { now := 0, signal }

/-- A question is written in one cycle, over a stream that reports readiness. -/
def asked : List (Act Polling) :=
  [.connect ⟨.v4 0, 0⟩,
    .cycle 0 [just (.opened none), just (.traffic (.ready none (some [.done 49])))],
    .cycle 0 [just (.traffic (.ready (some (.done SessionKeeper.greeting)) none))],
    .steer [.submit question],
    .cycle 0 [just .woken, just (.traffic (.ready none (some [.done 4])))]]

/-- A connection is up, over a stream that completes reads and writes, and a question is queued. -/
def hasty : List (Act Streaming) :=
  [.connect ⟨.v4 0, 0⟩,
    .cycle 0 [just (.opened none), just (.traffic (.wrote 49)), just (.traffic .flushed)],
    .cycle 0 [just (.traffic (.received SessionKeeper.greeting))],
    .steer [.submit question]]

/-- The question is written, and the flush that is then due ends the cycle. -/
def flushed : Act Streaming :=
  .cycle 0 [just .woken, just (.traffic (.wrote 4)), just (.traffic .flushed)]

theorem written_eq_handed_asked :
    (∃ before, ((new {} SessionKeeper.anew).run asked).moves
        (.cycle 0 [just (.traffic (Polling.ready (some (.done (Frame.encode reply))) none))]) =
      before ++ .received [question] reply [] :: [] ∧
      requests (sinceReset ((new {} SessionKeeper.anew).course asked ++ before)) = [question] ∧
      handedOver (sinceReset ((new {} SessionKeeper.anew).course asked ++ before)) =
        [question]) ∧
    ∃ before, ((new {} SessionKeeper.anew).run (hasty ++ [flushed])).moves
        (.cycle 0 [just (.traffic (Streaming.received (Frame.encode reply)))]) =
      before ++ .received [question] reply [] :: [] ∧
      requests (sinceReset ((new {} SessionKeeper.anew).course (hasty ++ [flushed]) ++ before)) =
        [question] ∧
      handedOver (sinceReset ((new {} SessionKeeper.anew).course (hasty ++ [flushed]) ++
        before)) = [question] := by
  constructor
  · have moves : ((new {} SessionKeeper.anew).run asked).moves
          (.cycle 0 [just (.traffic (Polling.ready (some (.done (Frame.encode reply))) none))]) =
        [.steered []] ++ .received [question] reply [] :: [] := by
      decide +kernel
    have written : requests (sinceReset ((new {} SessionKeeper.anew).course asked ++
        [.steered []])) = [question] := by decide +kernel
    refine ⟨_, moves, written, ?_⟩
    rw [← ((written_eq_handed {} SessionKeeper.anew).1 _ _ _ _ _ _ _ moves).1]
    exact written
  · have moves : ((new {} SessionKeeper.anew).run (hasty ++ [flushed])).moves
          (.cycle 0 [just (.traffic (Streaming.received (Frame.encode reply)))]) =
        [.steered []] ++ .received [question] reply [] :: [] := by
      decide +kernel
    have written : requests (sinceReset ((new {} SessionKeeper.anew).course
        (hasty ++ [flushed]) ++ [.steered []])) = [question] := by decide +kernel
    refine ⟨_, moves, written, ?_⟩
    rw [← ((written_eq_handed {} SessionKeeper.anew).2 _ _ _ _ _ _ _ moves).2.1.mpr rfl]
    exact written

/-- The question is written, and the reply is read before the flush that is due. -/
def overtaken : List (Moment (Signal Streaming)) :=
  [just .woken, just (.traffic (.wrote 4)), just (.traffic (.received (Frame.encode reply)))]

/-- **A reply can overtake the handing over of its request**: it arrives in the cycle that wrote the
    request, nobody waits for it, and the client gives up the connection. -/
theorem reply_overtakes :
    ∃ before, ((new {} SessionKeeper.anew).run hasty).moves (.cycle 0 overtaken) =
        before ++ .received [] reply [] :: [] ∧
      requests (sinceReset ((new {} SessionKeeper.anew).course hasty ++ before)) = [question] ∧
      handedOver (sinceReset ((new {} SessionKeeper.anew).course hasty ++ before)) = [] ∧
      (((new {} SessionKeeper.anew).run hasty).cycle (fun script _ _ => line? script) 4 0
        overtaken).2.2 = .failed (.client "reply xid 1 without a pending request") := by
  refine ⟨[.framed question, .steered [], .calmed, .steered [], .finished question, .steered []],
    ?_, ?_, ?_, ?_⟩ <;> decide +kernel

end Transport

end Reconnect
