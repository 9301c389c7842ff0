import Reconnect.Proofs.GivingUp
import Reconnect.Proofs.Waits

/-!
# Sending ahead of the queue

A packet that is sent out of band is framed behind what is framed already, and everything is written
at once, up to its last byte.  The stream may take the bytes in any portions, may have no room after
all, may fail or take too long, and frames may have been written in part by an earlier cycle.
Wherever the sending ends, the outbound buffer has to be such that it can be gone on with.

## Protocol

* A run pours if it does nothing but write and let the holders of the control act.  Sending ahead is
  framing one packet and then pouring.
* What pouring is told by are its turns: the bytes that left, the packets that were finished, and
  what the holders of the control did meanwhile.

## Results

* `Link.poured_run`: pouring takes bytes and packets off the front of the outbound buffer, and
  changes nothing else.
* `Transport.hasUnsent_drain`: sending that has finished has left nothing unwritten.
* `Transport.sends_ahead`: **in every state that acts lead to, with both backends and however the
  stream treats the bytes, sending ahead loses nothing.**
-/

namespace Reconnect

/-- Counting packets changes nothing but the count. -/
theorem Liveness.foldl_countSent (ps : List Packet) (v : Liveness) :
    { ps.foldl (fun v _ => v.countSent) v with sent := v.sent } = v := by
  induction ps generalizing v with
  | nil => rfl
  | cons p ps ih => exact congrArg (fun w : Liveness => { w with sent := v.sent }) (ih v.countSent)

namespace Link

variable {σ : Type}

namespace Op

/-- Bytes are written, or the holders of the control act. -/
def pours : Op → Bool
  | .wrote _ | .steer _ => true
  | _ => false

/-- What the holders of the control do. -/
def held : Op → List Control.Action
  | .steer actions => actions
  | _ => []

end Op

/-- The link `m` is what `l` has become by pouring, in the turns `h`. -/
structure Poured [Client σ] (l : Link σ) (h : List (Turn σ)) (m : Link σ) : Prop where
  /-- The bytes that left come off the front. -/
  bytes : h.flatMap Turn.left ++ m.outbound.bytes = l.outbound.bytes
  /-- A packet is finished, or it is still in the buffer. -/
  packets : h.flatMap Turn.finished ++ m.outbound.packets = l.outbound.packets
  written : m.written =
    l.written ++ (h.flatMap Turn.finished).filter fun p => p.kind.expectsReply
  sent : ∀ n, l.liveness.sent = min n maxCount →
    m.liveness.sent = min (n + (h.flatMap Turn.finished).length) maxCount
  control : m.control = l.control.runActions (h.flatMap fun t => t.op.held)
  /-- All else is as it was. -/
  kept : { m with
    outbound := l.outbound
    written := l.written
    control := l.control
    liveness := { m.liveness with
      sent := l.liveness.sent
      lastSent := l.liveness.lastSent } } = l

namespace Poured

variable [Client σ] {l k m : Link σ} {h h' : List (Turn σ)}

theorem refl : Poured l [] l where
  bytes := rfl
  packets := rfl
  written := (List.append_nil _).symm
  sent _ hn := hn
  control := rfl
  kept := rfl

theorem append (first : Poured l h k) (later : Poured k h' m) : Poured l (h ++ h') m where
  bytes := by rw [List.flatMap_append, List.append_assoc, later.bytes, first.bytes]
  packets := by rw [List.flatMap_append, List.append_assoc, later.packets, first.packets]
  written := by
    rw [later.written, first.written, List.flatMap_append, List.filter_append, List.append_assoc]
  sent := by
    intro n hn
    rw [later.sent _ (first.sent n hn), List.flatMap_append, List.length_append, Nat.add_assoc]
  control := by
    rw [later.control, first.control, List.flatMap_append, Control.runActions_append]
  kept := by
    -- what the later part keeps of `k` is what the first part has kept of `l`
    have restored := congrArg (fun k : Link σ => { k with
      outbound := l.outbound
      written := l.written
      control := l.control
      liveness := { k.liveness with
        sent := l.liveness.sent
        lastSent := l.liveness.lastSent } }) later.kept
    exact restored.trans first.kept

end Poured

/-- Settling written bytes pours. -/
theorem poured_wrote [Client σ] (l : Link σ) (n : Nat) :
    Poured l [⟨l, .wrote n⟩] (l.wrote n) where
  bytes := by
    have hsplit : l.outbound.bytes.take n ++ l.outbound.bytes.drop (min n l.outbound.bytes.length) =
        l.outbound.bytes := by
      rw [List.take_eq_take_min, List.take_append_drop]
    rw [List.flatMap_singleton]
    exact hsplit
  packets := by
    rw [List.flatMap_singleton, finished_wrote]
    exact l.outbound.packets_settle n
  written := by
    rw [List.flatMap_singleton, finished_wrote]
    rfl
  sent := by
    intro k hk
    rw [List.flatMap_singleton, finished_wrote]
    exact sent_foldl_countSent _ hk
  control := rfl
  kept := by
    have hcounted := Liveness.foldl_countSent (l.outbound.settle n).2 l.liveness.spoke
    have hliveness := congrArg
      (fun v : Liveness => { v with lastSent := l.liveness.lastSent }) hcounted
    exact congrArg (fun v : Liveness => { l with liveness := v }) hliveness

/-- Letting the holders of the control act pours. -/
theorem poured_steer [Client σ] (l : Link σ) (actions : List Control.Action) :
    Poured l [⟨l, .steer actions⟩] (l.steer actions) where
  bytes := rfl
  packets := rfl
  written := (List.append_nil _).symm
  sent _ hn := hn
  control := by
    rw [List.flatMap_singleton]
    rfl
  kept := rfl

theorem held_turns [Client σ] (l : Link σ) (ops : List Op) :
    ((l.turns ops).flatMap fun t => t.op.held) = ops.flatMap Op.held := by
  induction ops generalizing l with
  | nil => rfl
  | cons op ops ih => exact congrArg (op.held ++ ·) (ih (l.step op).1)

/-- **Pouring takes bytes and packets off the front of the outbound buffer**, and changes nothing
else. -/
theorem poured_run [Client σ] (l : Link σ) {ops : List Op} (h : ∀ op ∈ ops, op.pours = true) :
    Poured l (l.turns ops) (l.run ops) := by
  induction ops generalizing l with
  | nil => exact .refl
  | cons op ops ih =>
    have hlater := ih (l.step op).1 fun op' hop' => h op' (List.mem_cons_of_mem op hop')
    have hop := h op List.mem_cons_self
    cases op with
    | wrote n => exact (l.poured_wrote n).append hlater
    | steer actions => exact (l.poured_steer actions).append hlater
    | _ => cases hop

end Link

/-- What one wait of a transport that sends ahead comes to. -/
def Portion.deeds {σ : Type} (w : Portion σ) : List Link.Op :=
  .steer w.moment.actions :: Transport.sentDeeds w.transport.owed w.moment.signal

namespace Transport

variable {σ α ω : Type}

open Link

/-! ## What the loop does -/

/-- Sending ahead does what its waits come to, one after the other. -/
theorem drainDeeds_eq (flushes : Bool) (await : ω → Send → Option (Moment Sent × ω))
    (fuel : Nat) (t : Transport σ) (around : ω) :
    drainDeeds flushes await fuel t around =
      (drainWaits flushes await fuel t around).flatMap Portion.deeds := by
  induction fuel generalizing t around with
  | zero => rfl
  | succ fuel ih =>
    rw [drainDeeds, drainWaits]
    split
    · rfl
    · have howed : (if t.link.hasUnsent then Send.bytes t.link.outbound.bytes else .flush) = t.owed :=
        rfl
      rw [howed]
      cases await around t.owed with
      | none => rfl
      | some found =>
        obtain ⟨m, around⟩ := found
        simp only [List.flatMap_cons, Portion.deeds]
        obtain ⟨u, next⟩ := takeSent { t with link := t.link.steer m.actions } t.owed m.signal
        cases next with
        | again => simp only [ih]
        | finish | fail fault => rfl

/-- What a signal comes to while sending is under way is at most a write. -/
theorem eq_wrote_of_mem_sentDeeds {send : Send} {signal : Sent} {op : Op}
    (h : op ∈ sentDeeds send signal) : ∃ n, op = .wrote n := by
  cases signal with
  | wrote n =>
    cases send with
    | bytes chunk =>
      simp only [sentDeeds] at h
      split at h
      · cases h
      · exact ⟨n, List.mem_singleton.mp h⟩
    | nothing | flush => cases h
  | blocked | flushed | failed fault | elapsed => cases h

theorem pours_deeds (w : Portion σ) : ∀ op ∈ w.deeds, op.pours = true := by
  intro op hop
  rcases List.mem_cons.mp hop with rfl | hop
  · rfl
  · obtain ⟨n, rfl⟩ := eq_wrote_of_mem_sentDeeds hop
    rfl

theorem pours_drainDeeds (flushes : Bool) (await : ω → Send → Option (Moment Sent × ω))
    (fuel : Nat) (t : Transport σ) (around : ω) :
    ∀ op ∈ drainDeeds flushes await fuel t around, op.pours = true := by
  intro op hop
  rw [drainDeeds_eq] at hop
  obtain ⟨w, -, hw⟩ := List.mem_flatMap.mp hop
  exact pours_deeds w op hw

/-- What the holders of the control do is what they do during the waits. -/
theorem held_deeds (w : Portion σ) : w.deeds.flatMap Op.held = w.moment.actions := by
  have hnone : (sentDeeds w.transport.owed w.moment.signal).flatMap Op.held = [] := by
    rw [List.flatMap_eq_nil_iff]
    intro op hop
    obtain ⟨n, rfl⟩ := eq_wrote_of_mem_sentDeeds hop
    rfl
  rw [Portion.deeds, List.flatMap_cons, hnone, List.append_nil]
  rfl

/-- The waits go through the script, line by line. -/
theorem moment_mem_script (flushes : Bool) (fuel : Nat) (t : Transport σ)
    (script : List (Moment Sent)) :
    ∀ w ∈ drainWaits flushes (fun script _ => line? script) fuel t script, w.moment ∈ script := by
  induction fuel generalizing t script with
  | zero =>
    intro w hw
    cases hw
  | succ fuel ih =>
    intro w hw
    rw [drainWaits] at hw
    split at hw
    · cases hw
    · cases script with
      | nil => cases hw
      | cons m script =>
        simp only [line?] at hw
        rcases List.mem_cons.mp hw with rfl | hw
        · exact List.mem_cons_self
        · refine List.mem_cons_of_mem m ?_
          generalize takeSent { t with link := t.link.steer m.actions } t.owed m.signal = went at hw
          obtain ⟨u, next⟩ := went
          cases next with
          | again => exact ih u script w hw
          | finish | fail fault => cases hw

/-- Only a flush ends the sending without a fault. -/
theorem flush_of_finish {t u : Transport σ} {send : Send} {signal : Sent}
    (h : t.takeSent send signal = (u, .finish)) :
    send = .flush ∧ signal = .flushed ∧ u = { t with unflushed := false } := by
  cases signal with
  | wrote n =>
    cases send with
    | bytes chunk =>
      simp only [takeSent] at h
      split at h <;> cases h
    | nothing | flush => cases h
  | flushed =>
    cases send with
    | flush =>
      obtain rfl := (Prod.mk.inj h).1
      exact ⟨rfl, rfl, rfl⟩
    | nothing | bytes chunk => cases h
  | blocked | failed fault | elapsed => cases h

theorem hasUnsent_of_owed {t : Transport σ} (h : t.owed = .flush) : t.link.hasUnsent = false := by
  unfold owed at h
  cases hunsent : t.link.hasUnsent with
  | false => rfl
  | true =>
    rw [hunsent] at h
    cases h

/-- **Sending that has finished has left nothing unwritten.** -/
theorem hasUnsent_drain (flushes : Bool) (await : ω → Send → Option (Moment Sent × ω))
    (fuel : Nat) (t : Transport σ) (around : ω) :
    (drain flushes await fuel t around).2.2 = .finished →
      (drain flushes await fuel t around).1.link.hasUnsent = false := by
  refine drain_rec (P := fun _ _ u verdict => verdict = .finished → u.link.hasUnsent = false)
    ?_ ?_ ?_ ?_ ?_ fuel t around
  · intro t h
    cases h
  · intro t hnothing _ _
    exact hnothing
  · intro t m u h v verdict _ ih
    exact ih
  · intro t m u htaken _
    obtain ⟨howed, -, rfl⟩ := flush_of_finish htaken
    exact hasUnsent_of_owed howed
  · intro t m u fault _ h
    cases h

theorem stream_takeSent (t : Transport σ) (send : Send) (signal : Sent) :
    (t.takeSent send signal).1.dialing = t.dialing ∧
      (t.takeSent send signal).1.live = t.live := by
  cases signal with
  | wrote n =>
    cases send with
    | bytes chunk =>
      simp only [takeSent]
      split <;> exact ⟨rfl, rfl⟩
    | nothing | flush => exact ⟨rfl, rfl⟩
  | flushed => cases send <;> exact ⟨rfl, rfl⟩
  | blocked | failed fault | elapsed => exact ⟨rfl, rfl⟩

/-- The stream is kept, whatever comes of the sending. -/
theorem stream_drain (flushes : Bool) (await : ω → Send → Option (Moment Sent × ω)) (fuel : Nat)
    (t : Transport σ) (around : ω) :
    (drain flushes await fuel t around).1.dialing = t.dialing ∧
      (drain flushes await fuel t around).1.live = t.live := by
  have hstep {t u : Transport σ} {m : Moment Sent} {next : Next}
      (h : takeSent { t with link := t.link.steer m.actions } t.owed m.signal = (u, next)) :
      u.dialing = t.dialing ∧ u.live = t.live := by
    have hstream := stream_takeSent { t with link := t.link.steer m.actions } t.owed m.signal
    rw [h] at hstream
    exact hstream
  refine drain_rec (P := fun t _ u _ => u.dialing = t.dialing ∧ u.live = t.live)
    ?_ ?_ ?_ ?_ ?_ fuel t around
  · intro t
    exact ⟨rfl, rfl⟩
  · intro t _ _
    exact ⟨rfl, rfl⟩
  · intro t m u h v verdict htaken ih
    exact ⟨ih.1.trans (hstep htaken).1, ih.2.trans (hstep htaken).2⟩
  · intro t m u htaken
    exact hstep htaken
  · intro t m u fault htaken
    exact hstep htaken

/-! ## Sending a packet -/

/-- A run of the link leads to where acts lead. -/
theorem link_run [Client σ] [Carrying α] (t : Transport σ) (acts : List (Act α)) :
    ∃ ops, (t.run acts).link = t.link.run ops := by
  induction acts generalizing t with
  | nil => exact ⟨[], rfl⟩
  | cons act acts ih =>
    obtain ⟨ops, hops⟩ := ih (t.perform act)
    refine ⟨t.deeds act ++ ops, ?_⟩
    rw [Link.run_append, ← link_perform]
    exact hops

section Ahead

variable (α) [Client σ] [Carrying α] (t : Transport σ) (p : Packet) (script : List (Moment Sent))

/-- The transport after it has sent a packet ahead of the queue, the rest of the script, and how the
sending has ended. -/
def ahead : Transport σ × List (Moment Sent) × Verdict :=
  sendAhead (Backend.flushes α) (fun script _ => line? script) (script.length + 1) t p script

/-- What sending a packet ahead of the queue comes to, turn by turn. -/
def aheadTurns : List (Link.Turn σ) := t.link.turns (t.deeds (.sendAhead p script : Act α))

/-- The waits of a transport with a stream that sends a packet ahead of the queue. -/
def aheadWaits : List (Portion σ) :=
  drainWaits (Backend.flushes α) (fun script _ => line? script) (script.length + 1)
    { t with link := t.link.pushAhead p } script

/-- What sending a packet ahead of the queue does, to a transport that acts have led to. -/
structure SendsAhead : Prop where
  /-- Without a stream it is refused, and nothing changes. -/
  refused : t.live = false → t.ahead α p script = (t, script, .failed .notConnected)
  /-- What has left and what is left to write are the bytes that waited, and behind them the
  frame. -/
  bytes : t.live = true →
    (t.aheadTurns α p script).flatMap Turn.left ++ (t.ahead α p script).1.link.outbound.bytes =
      t.link.outbound.bytes ++ Frame.encode p.body
  /-- Every packet is written in full, or it is still in the buffer. -/
  packets : t.live = true →
    (t.aheadTurns α p script).flatMap Turn.finished ++
        (t.ahead α p script).1.link.outbound.packets =
      t.link.outbound.packets ++ [p]
  /-- Of the packets in the buffer the first may be written in part, and the others are not. -/
  resumable : ∃ gone, gone ++ (t.ahead α p script).1.link.outbound.bytes =
      wire (t.ahead α p script).1.link.outbound.packets ∧
    ∀ q, (t.ahead α p script).1.link.outbound.packets.head? = some q →
      gone.length < (Frame.encode q.body).length
  /-- The requests that were written in full wait to be handed over, in this order. -/
  written : (t.ahead α p script).1.link.written = t.link.written ++
    ((t.aheadTurns α p script).flatMap Turn.finished).filter fun q => q.kind.expectsReply
  sent : (t.ahead α p script).1.link.liveness.sent =
    min (t.link.liveness.sent + ((t.aheadTurns α p script).flatMap Turn.finished).length) maxCount
  /-- Sending that has finished has written everything. -/
  finished : (t.ahead α p script).2.2 = .finished →
    (t.aheadTurns α p script).flatMap Turn.left = t.link.outbound.bytes ++ Frame.encode p.body ∧
    (t.ahead α p script).1.link.outbound = {} ∧
    (t.ahead α p script).1.link.liveness.sent =
      min (t.link.liveness.sent + (t.link.outbound.size + 1)) maxCount
  /-- The queue and the gates are changed only by what others do meanwhile. -/
  control : t.live = true → (t.ahead α p script).1.link.control =
    t.link.control.runActions ((t.aheadWaits α p script).flatMap fun w => w.moment.actions)
  /-- If nobody does anything, they are as they were, and so is the phase. -/
  quiet : (∀ m ∈ script, m.actions = []) →
    (t.ahead α p script).1.link.control = t.link.control ∧
      (t.ahead α p script).1.link.phase = t.link.phase
  /-- All else is as it was. -/
  kept : { (t.ahead α p script).1.link with
    outbound := t.link.outbound
    written := t.link.written
    control := t.link.control
    liveness := { (t.ahead α p script).1.link.liveness with
      sent := t.link.liveness.sent
      lastSent := t.link.liveness.lastSent } } = t.link
  stream : (t.ahead α p script).1.dialing = t.dialing ∧ (t.ahead α p script).1.live = t.live

end Ahead

section Ahead

variable [Client σ] [Carrying α] {t : Transport σ} (p : Packet) (script : List (Moment Sent))

theorem ahead_of_dead (h : t.live = false) :
    t.ahead α p script = (t, script, .failed .notConnected) ∧ t.aheadTurns α p script = [] := by
  have hdead : ¬t.live = true := by simp [h]
  constructor
  · rw [ahead, sendAhead, if_neg hdead]
  · rw [aheadTurns, deeds, sendAheadDeeds, if_neg hdead]
    rfl

/-- With a stream, sending ahead frames the packet and pours. -/
theorem poured_ahead (h : t.live = true) :
    Poured (t.link.pushAhead p) (t.aheadTurns α p script) (t.ahead α p script).1.link := by
  have hdeeds : t.deeds (.sendAhead p script : Act α) =
      .pushAhead p :: drainDeeds (Backend.flushes α) (fun script _ => line? script)
        (script.length + 1) { t with link := t.link.pushAhead p } script := if_pos h
  have hlink : (t.ahead α p script).1.link = (t.link.pushAhead p).run
      (drainDeeds (Backend.flushes α) (fun script _ => line? script)
        (script.length + 1) { t with link := t.link.pushAhead p } script) := by
    rw [ahead, sendAhead, if_pos h]
    exact link_drain _ _ _ { t with link := t.link.pushAhead p } script
  have poured := (t.link.pushAhead p).poured_run (pours_drainDeeds (Backend.flushes α)
    (fun script _ => line? script) (script.length + 1) { t with link := t.link.pushAhead p } script)
  -- framing the packet is a turn in which nothing is written and nobody acts
  rw [aheadTurns, hdeeds, hlink]
  exact ⟨poured.bytes, poured.packets, poured.written, poured.sent, poured.control, poured.kept⟩

theorem held_aheadTurns (h : t.live = true) :
    ((t.aheadTurns α p script).flatMap fun turn => turn.op.held) =
      (t.aheadWaits α p script).flatMap fun w => w.moment.actions := by
  have hdeeds : t.deeds (.sendAhead p script : Act α) =
      .pushAhead p :: drainDeeds (Backend.flushes α) (fun script _ => line? script)
        (script.length + 1) { t with link := t.link.pushAhead p } script := if_pos h
  rw [aheadTurns, held_turns, hdeeds, drainDeeds_eq, List.flatMap_cons, List.flatMap_assoc]
  simp only [held_deeds]
  rfl

omit [Client σ] in
/-- With a stream, sending that has finished has written all there was. -/
theorem finished_ahead (h : t.live = true)
    (hresumable : ∃ gone, gone ++ (t.ahead α p script).1.link.outbound.bytes =
      wire (t.ahead α p script).1.link.outbound.packets)
    (hfinished : (t.ahead α p script).2.2 = .finished) :
    (t.ahead α p script).1.link.outbound = {} := by
  have hunsent : (t.ahead α p script).1.link.hasUnsent = false := by
    rw [ahead, sendAhead, if_pos h] at hfinished ⊢
    exact hasUnsent_drain _ _ _ _ _ hfinished
  generalize (t.ahead α p script).1.link = l at hresumable hunsent
  have hframes : l.outbound.frames = [] := by
    rw [hasUnsent, Outbound.isEmpty, Bool.not_eq_false'] at hunsent
    exact List.isEmpty_iff.mp hunsent
  obtain ⟨gone, hgone⟩ := hresumable
  rw [Outbound.packets, hframes] at hgone
  have hbytes : l.outbound.bytes = [] := (List.append_eq_nil_iff.mp hgone).2
  show l.outbound = { bytes := [], frames := [] }
  rw [← hbytes, ← hframes]

theorem sendsAhead_of_dead (h : t.live = false)
    (hresumable : ∃ gone, gone ++ t.link.outbound.bytes = wire t.link.outbound.packets ∧
      ∀ q, t.link.outbound.packets.head? = some q → gone.length < (Frame.encode q.body).length)
    (hsent : t.link.liveness.sent ≤ maxCount) : SendsAhead α t p script := by
  have hlive : ¬t.live = true := by simp [h]
  obtain ⟨hahead, hturns⟩ := ahead_of_dead (α := α) p script h
  constructor
  case refused => exact fun _ => hahead
  case bytes | packets | control => exact fun hlive' => absurd hlive' hlive
  all_goals rw [hahead]
  case resumable => exact hresumable
  case written =>
    rw [hturns]
    exact (List.append_nil _).symm
  case sent =>
    rw [hturns]
    show t.link.liveness.sent = min (t.link.liveness.sent + 0) maxCount
    omega
  case finished => exact fun hfinished => nomatch hfinished
  case quiet => exact fun _ => ⟨rfl, rfl⟩
  case stream => exact ⟨rfl, rfl⟩

theorem sendsAhead_of_live (h : t.live = true)
    (hresumable : ∃ gone, gone ++ (t.ahead α p script).1.link.outbound.bytes =
        wire (t.ahead α p script).1.link.outbound.packets ∧
      ∀ q, (t.ahead α p script).1.link.outbound.packets.head? = some q →
        gone.length < (Frame.encode q.body).length)
    (hsent : t.link.liveness.sent ≤ maxCount) : SendsAhead α t p script := by
  have poured := poured_ahead (α := α) p script h
  have hheld := held_aheadTurns (α := α) p script h
  have hempty := finished_ahead (α := α) p script h (hresumable.imp fun _ hgone => hgone.1)
  have hpackets : (t.aheadTurns α p script).flatMap Turn.finished ++
      (t.ahead α p script).1.link.outbound.packets = t.link.outbound.packets ++ [p] :=
    poured.packets.trans (t.link.outbound.packets_push p)
  have hcount : (t.ahead α p script).1.link.liveness.sent = min (t.link.liveness.sent +
      ((t.aheadTurns α p script).flatMap Turn.finished).length) maxCount :=
    poured.sent _ (Nat.min_eq_left hsent).symm
  have hcontrol : (t.ahead α p script).1.link.control = t.link.control.runActions
      ((t.aheadWaits α p script).flatMap fun w => w.moment.actions) := by
    rw [poured.control, hheld]
    rfl
  constructor
  case refused => exact fun hdead => absurd h (by simp [hdead])
  case bytes => exact fun _ => poured.bytes
  case packets => exact fun _ => hpackets
  case resumable => exact hresumable
  case written => exact poured.written
  case sent => exact hcount
  case finished =>
    intro hfinished
    have hnothing := hempty hfinished
    have hbytes := poured.bytes
    rw [hnothing] at hpackets hbytes
    refine ⟨(List.append_nil _).symm.trans hbytes, hnothing, ?_⟩
    have hlength := congrArg List.length hpackets
    rw [List.length_append, List.length_append] at hlength
    have hsize : t.link.outbound.packets.length = t.link.outbound.size := List.length_map _
    have hnone : (Outbound.packets {}).length = 0 := rfl
    rw [hcount]
    simp only [List.length_singleton] at hlength
    omega
  case control => exact fun _ => hcontrol
  case quiet =>
    intro hquiet
    have hnobody : ((t.aheadWaits α p script).flatMap fun w => w.moment.actions) = [] := by
      rw [List.flatMap_eq_nil_iff]
      intro w hw
      exact hquiet _ (moment_mem_script _ _ _ _ w hw)
    rw [hnobody] at hcontrol
    refine ⟨hcontrol, ?_⟩
    have hstage : (t.ahead α p script).1.link.stage = t.link.stage := by
      have hkept := congrArg Link.stage poured.kept
      exact hkept
    rw [phase, phase, hstage, hcontrol]
    rfl
  case kept =>
    have hkept := congrArg (fun l : Link σ => { l with outbound := t.link.outbound }) poured.kept
    exact hkept
  case stream =>
    rw [ahead, sendAhead, if_pos h]
    exact stream_drain _ _ _ { t with link := t.link.pushAhead p } script

end Ahead

/-- In every state that acts have led to, the bytes that wait are the end of the frames that
wait. -/
theorem front_run [Client σ] [Carrying α] (settings : Settings) (client : σ)
    (acts : List (Act α)) :
    (∃ gone, gone ++ ((new settings client).run acts).link.outbound.bytes =
        wire ((new settings client).run acts).link.outbound.packets ∧
      ∀ q, ((new settings client).run acts).link.outbound.packets.head? = some q →
        gone.length < (Frame.encode q.body).length) ∧
    ((new settings client).run acts).link.liveness.sent ≤ maxCount := by
  obtain ⟨ops, hops⟩ := link_run (new settings client) acts
  rw [hops]
  obtain ⟨hwire, hsent⟩ := onWire_run settings client ops
  refine ⟨hwire.front, ?_⟩
  show ((Link.new settings client).run ops).liveness.sent ≤ maxCount
  omega

theorem sendsAhead_of_run [Client σ] [Carrying α] (settings : Settings) (client : σ)
    (acts : List (Act α)) (p : Packet) (script : List (Moment Sent)) :
    SendsAhead α ((new settings client).run acts) p script := by
  obtain ⟨hresumable, hsent⟩ := front_run settings client acts
  cases hlive : ((new settings client).run acts).live with
  | false => exact sendsAhead_of_dead p script hlive hresumable hsent
  | true =>
    have hafter := (front_run settings client (acts ++ [.sendAhead p script])).1
    rw [run, List.foldl_append] at hafter
    exact sendsAhead_of_live p script hlive hafter hsent

/-- **Sending ahead of the queue loses nothing, with both backends.**
    In whatever state acts have left a transport, and however the stream takes the bytes, refuses
    them, fails or takes too long: without a stream the packet is refused and nothing changes.  With
    a stream, what has left and what is still to be written are the bytes that waited and the frame
    of the packet, so that nothing is written if nothing is left; every packet that waited is
    written in full, and counted, or it waits still, and the requests among those that are written
    wait to be handed over.  Sending that has finished has left nothing.  The queue, the gates and
    the phase are as they were, unless others change them meanwhile. -/
theorem sends_ahead [Client σ] (settings : Settings) (client : σ) :
    (∀ (acts : List (Act Polling)) (p : Packet) (script : List (Moment Sent)),
      SendsAhead Polling ((new settings client).run acts) p script) ∧
    (∀ (acts : List (Act Streaming)) (p : Packet) (script : List (Moment Sent)),
      SendsAhead Streaming ((new settings client).run acts) p script) ∧
    ∀ p : Packet, p.body.length < 2147483648 → ∃ head, Frame.encode p.body = head ++ p.body ∧
      head.length = 4 ∧ (Bytes.toInt32 head).toInt = p.body.length :=
  ⟨sendsAhead_of_run settings client, sendsAhead_of_run settings client,
    fun _ hp => encode_eq_head_append hp⟩

/-- The first byte of the question has been written. -/
def halfway : List (Act Streaming) := hasty ++ [.cycle 0 [just .woken, just (.traffic (.wrote 1))]]

/-- The rest of the question goes first, and the time is over in the middle of the packet. -/
example :
    let p : Packet := { kind := .ping, xid := -2, body := [7] }
    let script : List (Moment Sent) := [⟨[], 0, .blocked⟩, ⟨[], 0, .wrote 5⟩, ⟨[], 0, .elapsed⟩]
    let t := (new {} SessionKeeper.anew).run halfway
    (t.aheadTurns Streaming p script).flatMap Turn.left = [0, 0, 0, 0, 0] ∧
      (t.ahead Streaming p script).1.link.outbound.bytes = [0, 1, 7] ∧
      (t.ahead Streaming p script).1.link.written = [question] ∧
      (t.ahead Streaming p script).1.link.outbound.packets = [p] := by
  decide +kernel

end Transport

end Reconnect
