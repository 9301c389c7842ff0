import Reconnect.Proofs.Conservation
import Reconnect.Proofs.Handover

/-!
# What becomes of a written request

Once the frame of a request is written in full, the request waits in a list of its own, until it is
handed over to the requests that wait for a reply or fails because the connection is given up.  The
buffer gives a packet either to that list, when its last byte is written, or back to the queue, when
the connection is given up before; a packet that did both would be sent twice.

## Results

* `Flow.Path.settled`: the written requests leave the list in the order in which they came to it.
* `Flow.Path.count_entered`: what came to a link and is no connect request is queued, framed or
  written, as often as it came.
* `Link.pending_step`, `Link.journal_step`: what an operation hands over and fails is what its
  moves say.
* `Link.written_settled_once`: **in every run, each written request is handed over once, fails once
  or waits for one of the two**, and it is neither framed nor queued again.
-/

namespace Reconnect

namespace Kind

theorem eq_request_of_expectsReply {k : Kind} (h : k.expectsReply = true) : k = .request := by
  cases k with
  | request => rfl
  | handshake | auth | ping => cases h

end Kind

namespace Move

/-- The written requests that fail because the connection is given up. -/
def failed : Move → List Packet
  | reset lost => lost
  | _ => []

/-- The written requests that are waited for no longer: one is handed over, or all fail. -/
def settled : Move → List Packet
  | handed p => [p]
  | m => m.failed

/-- The packets that come to a link, wherever they get in. -/
def entered (m : Move) : List Packet := m.submitted ++ m.jumped

theorem eq_request_of_mem_requests {h : List Move} {p : Packet} (hp : p ∈ requests h) :
    p.kind = .request := by
  obtain ⟨m, -, hm⟩ := List.mem_filterMap.mp hp
  cases m with
  | finished q =>
    simp only [request?] at hm
    split at hm
    · rename_i hreply
      obtain rfl := Option.some.inj hm
      exact Kind.eq_request_of_expectsReply hreply
    · cases hm
  | _ => cases hm

/-- For a request, it is the same to be written and to be written in full. -/
theorem count_requests {p : Packet} (hp : p.kind = .request) (h : List Move) :
    (requests h).count p = (h.filterMap finished?).count p := by
  induction h with
  | nil => rfl
  | cons m h ih =>
    cases m with
    | finished q =>
      by_cases hq : q = p
      · subst hq
        have hreply : q.kind.expectsReply = true := by rw [hp]; rfl
        simp only [requests, List.filterMap_cons, request?, finished?, hreply, if_true,
          List.count_cons_self]
        exact congrArg (· + 1) ih
      · simp only [requests, List.filterMap_cons, request?, finished?,
          List.count_cons_of_ne hq]
        split
        · exact ih
        · rename_i r hr
          split at hr
          · obtain rfl := Option.some.inj hr
            rw [List.count_cons_of_ne hq]
            exact ih
          · cases hr
    | _ => exact ih

theorem sublist_settled (h : List Move) : (handedOver h).Sublist (h.flatMap settled) := by
  induction h with
  | nil => exact List.Sublist.slnil
  | cons m h ih =>
    cases m with
    | handed p => exact ih.cons_cons p
    | reset lost => exact ih.trans (List.sublist_append_right lost _)
    | _ => exact ih

end Move

namespace Control

theorem count_act (c : Control) (a : Action) (p : Packet) :
    (c.act a).queue.count p =
      c.queue.count p + a.appended?.toList.count p + a.jumped?.toList.count p := by
  cases a with
  | pushFront q =>
    simp only [act, Action.appended?, Action.jumped?, Option.toList_none, Option.toList_some,
      List.count_nil, List.count_cons]
    omega
  | pushBack q | submit q => simp [act, Action.appended?, Action.jumped?]
  | wake | close | beginAuth | endAuth | prime => rfl

theorem count_runActions (c : Control) (actions : List Action) (p : Packet) :
    (c.runActions actions).queue.count p = c.queue.count p +
      ((actions.filterMap Action.appended?).count p +
        (actions.filterMap Action.jumped?).count p) := by
  induction actions generalizing c with
  | nil => rfl
  | cons a actions ih =>
    have happended : ((a :: actions).filterMap Action.appended?).count p =
        a.appended?.toList.count p + (actions.filterMap Action.appended?).count p := by
      cases ha : a.appended? <;> simp [ha, List.count_cons, Nat.add_comm]
    have hjumped : ((a :: actions).filterMap Action.jumped?).count p =
        a.jumped?.toList.count p + (actions.filterMap Action.jumped?).count p := by
      cases ha : a.jumped? <;> simp [ha, List.count_cons, Nat.add_comm]
    rw [runActions_cons, ih, c.count_act, happended, hjumped]
    omega

end Control

/-- The packet that may leave first is taken out once. -/
theorem Queue.count_pop {permitted : Kind → Bool} {q rest : Queue} {r : Packet}
    (h : Queue.pop permitted q = some (r, rest)) (p : Packet) :
    q.count p = [r].count p + rest.count p := by
  obtain ⟨-, front, back, rfl, rfl, -⟩ := Queue.pop_eq_some_iff.mp h
  rw [List.append_cons, List.count_append, List.count_append, List.count_append]
  omega

namespace Flow

open Move

/-! ## Written requests -/

theorem Step.settled {f g : Flow} {m : Move} (s : Step f m g) :
    f.written ++ requests [m] = m.settled ++ g.written := by
  cases hm : m.resets with
  | true =>
    cases s with
    | reset => rfl
    | _ => cases hm
  | false =>
    have hkept := s.written hm
    have hhanded : handedOver [m] = m.settled := by
      cases m with
      | reset lost => cases hm
      | _ => rfl
    rwa [hhanded] at hkept

/-- **The written requests are those that were handed over or failed, in this order, and behind
them those that wait to be handed over.** -/
theorem Path.settled {f g : Flow} {h : List Move} (path : Path f h g) (hf : f.written = []) :
    requests h = h.flatMap Move.settled ++ g.written := by
  induction path with
  | nil =>
    rw [hf]
    rfl
  | @snoc h g k m _ s ih =>
    calc requests (h ++ [m]) = h.flatMap Move.settled ++ (g.written ++ requests [m]) := by
          rw [requests_append, ih, List.append_assoc]
      _ = h.flatMap Move.settled ++ (m.settled ++ k.written) := by rw [s.settled]
      _ = (h ++ [m]).flatMap Move.settled ++ k.written := by
          rw [List.flatMap_append, List.append_assoc]
          simp

/-! ## Where a packet can be -/

/-- How often a packet is queued or framed. -/
def unsent (f : Flow) (p : Packet) : Nat := f.control.queue.count p + f.outbound.count p

theorem unsent_runActions (f : Flow) (stage : Stage) (actions : List Control.Action) (p : Packet) :
    unsent { f with stage, control := f.control.runActions actions } p =
      f.unsent p + ((actions.filterMap Control.Action.appended?).count p +
        (actions.filterMap Control.Action.jumped?).count p) := by
  simp only [unsent, f.control.count_runActions]
  omega

/-- **A move lets a packet in or out, or moves it between the queue and the buffer**, and never
makes a second one of it. -/
theorem Step.count_entered {f g : Flow} {m : Move} (s : Step f m g) {p : Packet}
    (hp : p.kind ≠ .handshake) :
    f.unsent p + m.entered.count p = g.unsent p + m.finished?.toList.count p := by
  cases s with
  | opened actions | answered response actions hs | received pending frame actions hs
  | steered actions =>
    rw [f.unsent_runActions]
    simp [entered, submitted, jumped, Move.actions, finished?, List.count_append]
  | framed hpop =>
    have hqueue := Queue.count_pop hpop p
    simp only [unsent, entered, submitted, jumped, Move.actions, finished?, List.filterMap_nil,
      List.append_nil, List.count_nil, List.count_append, Option.toList_none, hqueue]
    omega
  | pushed q =>
    simp only [unsent, entered, submitted, jumped, Move.actions, finished?, List.filterMap_nil,
      List.nil_append, List.count_nil, List.count_append, Option.toList_none]
    omega
  | finished ho =>
    simp only [unsent, ho, entered, submitted, jumped, Move.actions, finished?,
      List.filterMap_nil, List.append_nil, List.count_nil, List.count_cons, Option.toList_some]
    omega
  | reset =>
    simp only [unsent, Queue.count_without hp, entered, submitted, jumped, Move.actions,
      finished?, List.filterMap_nil, List.append_nil, List.count_nil, List.count_append,
      Option.toList_none]
    omega
  | began b | calmed | handed hw | closed => rfl

/-- Along a path, what came in and is no connect request is queued, framed or written, as often as
it came. -/
theorem Path.count_entered {f g : Flow} {h : List Move} (path : Path f h g) {p : Packet}
    (hp : p.kind ≠ .handshake) (hf : f.unsent p = 0) :
    (h.flatMap Move.entered).count p = g.unsent p + (h.filterMap finished?).count p := by
  induction path with
  | nil => simp [hf]
  | @snoc h g k m _ s ih =>
    have hlast := s.count_entered hp
    have hone : ([m].filterMap finished?).count p = m.finished?.toList.count p := by
      cases hm : m.finished? <;> simp [hm]
    rw [List.flatMap_append, List.count_append, List.filterMap_append, List.count_append, ih,
      hone]
    simp only [List.flatMap_cons, List.flatMap_nil, List.append_nil]
    omega

end Flow

namespace Link

variable {σ : Type}

open Move

/-! ## What is seen of it -/

/-- The client is called in the course of the operation. -/
def Op.calls : Op → Bool
  | .process | .established _ _ => true
  | _ => false

theorem settled_eq_nil_of_calls {m : Move} (h : m.calls = true) : m.settled = [] := by
  cases m <;> first | rfl | cases h

/-- Whatever is appended to the requests that wait for a reply was handed over.  Processing is left
out, as the client may do with these requests what it likes. -/
theorem pending_step [Client σ] (l : Link σ) {op : Op} (hp : op ≠ .process)
    (ha : op ≠ .abandonPending) :
    (l.step op).1.pending = l.pending ++ handedOver (l.moves op) := by
  cases op with
  | process => exact absurd rfl hp
  | abandonPending => exact absurd rfl ha
  | connect e =>
    simp only [step, connect, moves]
    split <;> exact (List.append_nil _).symm
  | fill | wrote n =>
    have hnone (ps : List Packet) (f : Packet → Move) (hf : ∀ p, (f p).handed? = none) :
        handedOver (ps.map f) = [] := by
      simp [handedOver, List.filterMap_map, hf]
    simp only [moves]
    rw [hnone _ _ fun p => rfl, List.append_nil]
    rfl
  | handOver =>
    have hall : handedOver (l.written.map .handed) = l.written := by
      rw [handedOver, List.filterMap_map]
      exact List.filterMap_some
    simp only [moves, hall]
    rfl
  | established localEnd now | makeRoom | heard data | pushAhead p | reset | close | tick now
  | steer actions | calm => exact (List.append_nil _).symm

/-- Whatever fails, apart from what the client or its owner lets fail, was written and is lost with
the connection. -/
theorem journal_step [Client σ] (l : Link σ) {op : Op} (hc : op.calls = false)
    (ha : op ≠ .abandonPending) :
    (l.step op).1.journal = l.journal ++ ((l.moves op).flatMap Move.failed).map lost := by
  cases op with
  | process | established localEnd now => cases hc
  | abandonPending => exact absurd rfl ha
  | connect e =>
    simp only [step, connect, moves]
    split
    · exact (List.append_nil _).symm
    · simp [reset, Move.failed]
  | reset | close => simp [step, reset, close, moves, Move.failed]
  | fill | wrote n | handOver =>
    have hnone (ps : List Packet) (f : Packet → Move) (hf : ∀ p, (f p).failed = []) :
        (ps.map f).flatMap Move.failed = [] := by
      simp [List.flatMap_map, hf]
    simp only [moves]
    rw [hnone _ _ fun p => rfl]
    exact (List.append_nil _).symm
  | makeRoom | heard data | pushAhead p | tick now | steer actions | calm =>
    exact (List.append_nil _).symm

theorem settled_of_calls [Client σ] (l : Link σ) {op : Op} (hc : op.calls = true) :
    (l.moves op).flatMap Move.settled = [] := by
  cases op with
  | process =>
    refine List.flatMap_eq_nil_iff.mpr fun m hm => ?_
    exact settled_eq_nil_of_calls (l.calls_processMoves m hm)
  | established localEnd now => rfl
  | _ => cases hc

/-! ## The fate of a request -/

/-- What can be said of written requests after a course that has led to a link. -/
structure Fated (h : List Move) (l : Link σ) : Prop where
  /-- Each written request was handed over or failed, in the order in which they were written, or
  it waits. -/
  settled : requests h = h.flatMap Move.settled ++ l.written
  /-- At no time more was handed over or failed than was written before. -/
  written_first : ∀ before, before <+: h → before.flatMap Move.settled <+: requests before
  /-- Requests are handed over in the order in which they were written. -/
  in_order : (handedOver h).Sublist (requests h)
  /-- Nothing but requests is written and waits, is handed over or fails. -/
  kind : ∀ p ∈ h.flatMap Move.settled ++ l.written, p.kind = .request
  /-- A request is queued, framed or written, as often as it came to the link. -/
  once : ∀ p : Packet, p.kind = .request → (h.flatMap Move.entered).count p =
    l.control.queue.count p + l.outbound.packets.count p + (requests h).count p
  /-- A request that came once and is written is gone from the queue and the buffer for good. -/
  gone : ∀ p : Packet, p.kind = .request → (h.flatMap Move.entered).count p = 1 →
    p ∈ requests h → p ∉ l.control.queue ∧ p ∉ l.outbound.packets ∧ (requests h).count p = 1

theorem fated_course [Client σ] (settings : Settings) (client : σ) (ops : List Op) :
    Fated ((new settings client).course ops) ((new settings client).run ops) := by
  have path := (new settings client).path_run ops
  have hsettled := path.settled rfl
  have honce : ∀ p : Packet, p.kind = .request →
      (((new settings client).course ops).flatMap Move.entered).count p =
        ((new settings client).run ops).control.queue.count p +
          ((new settings client).run ops).outbound.packets.count p +
          (requests ((new settings client).course ops)).count p := by
    intro p hp
    have hcount := path.count_entered (p := p) (by simp [hp]) rfl
    rwa [← count_requests hp] at hcount
  refine ⟨hsettled, ?_, ?_, ?_, ?_, ?_⟩
  · rintro before ⟨after, hcourse⟩
    rw [← hcourse] at path
    obtain ⟨f, hbefore, -⟩ := path.split
    rw [hbefore.settled rfl]
    exact List.prefix_append _ _
  · rw [hsettled]
    exact (sublist_settled _).trans (List.sublist_append_left _ _)
  · intro p hp
    have hmem : p ∈ requests ((new settings client).course ops) := by rwa [hsettled]
    exact eq_request_of_mem_requests hmem
  · exact honce
  · intro p hp hcame hwritten
    have hcount := honce p hp
    have hpos := List.count_pos_iff.mpr hwritten
    refine ⟨List.count_eq_zero.mp ?_, List.count_eq_zero.mp ?_, ?_⟩ <;> omega

/-- Of three requests the first is handed over, the second is written and the third in part, when
    the connection is given up. -/
def scattered : List Op :=
  [.steer [.submit { kind := .request, xid := 1, body := [1] },
      .submit { kind := .request, xid := 2, body := [2] },
      .submit { kind := .request, xid := 3, body := [3] }],
    .connect ⟨.v4 0, 0⟩, .established none 0, .fill, .wrote 49,
    .heard SessionKeeper.greeting, .process, .fill, .wrote 5, .handOver, .wrote 7, .reset]

example :
    handedOver ((new {} SessionKeeper.anew).course scattered) =
        [{ kind := .request, xid := 1, body := [1] }] ∧
      ((new {} SessionKeeper.anew).course scattered).flatMap Move.failed =
        [{ kind := .request, xid := 2, body := [2] }] ∧
      ((new {} SessionKeeper.anew).run scattered).control.queue =
        [{ kind := .request, xid := 3, body := [3] }] := by
  decide +kernel

end Link

end Reconnect
