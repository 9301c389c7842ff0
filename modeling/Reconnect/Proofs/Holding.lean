import Reconnect.Proofs.Deeds
import Reconnect.Proofs.Waits

/-!
# What is held agrees with the stage

The attempt and the stream are held by the transport, the stage by its link, and every operation
touches both, in its own order, or gives up between the two.

## Protocol

* A link is open while a stream carries it, and bare if nothing of a connection is left in it.
* A transport is up if it holds a stream and no attempt, and its link is open; otherwise it is down,
  and its link is bare.

## Results

* `Link.open_step`: only what begins or gives up a connection takes an open link out of its stages.
* `Transport.agrees_rounds`, `Transport.up_drain`: what the loops keep, however they end.
* `Transport.agrees_run`: **between any two acts, with both backends and whatever the waits came to,
  the attempt, the stream and the stage agree**, and without a stream nothing of a connection is
  left.
-/

namespace Reconnect

namespace Link

variable {σ : Type}

/-- A stream carries the link. -/
def Open (l : Link σ) : Prop := l.stage = .handshaking ∨ l.stage = .ready

/-- Nothing of a connection is left in the link. -/
structure Bare (l : Link σ) : Prop where
  outbound : l.outbound = {}
  written : l.written = []
  inbox : l.inbox = []
  expected : l.decoder.expected = none
  localEnd : l.localEnd = none

theorem bare_reset (l : Link σ) : l.reset.Bare := ⟨rfl, rfl, rfl, rfl, rfl⟩

theorem not_open_reset (l : Link σ) : ¬l.reset.Open := by
  unfold Open reset
  split <;> simp

theorem isConnected_phase_iff (l : Link σ) :
    l.phase.isConnected = true ↔ l.Open ∧ l.control.closing = false := by
  unfold phase Open
  cases l.control.closing with
  | true => simp [Phase.isConnected]
  | false =>
    cases l.stage with
    | ready => cases l.control.authPending <;> simp [Phase.isConnected]
    | disconnected | connecting | handshaking | closed => simp [Phase.isConnected]

/-! ## Open links -/

/-- The operation neither begins nor gives up a connection. -/
def Op.staysOpen : Op → Bool
  | .connect _ | .established _ _ | .reset | .close => false
  | _ => true

theorem open_dispatch [Client σ] {l : Link σ} (payload : Bytes) (h : l.Open) :
    (l.dispatch payload).1.Open := by
  unfold dispatch accept
  split
  · split
    · exact h
    · exact .inr rfl
  · exact h

theorem open_process [Client σ] {l : Link σ} (h : l.Open) : l.process.1.Open := by
  induction l using process_rec with
  | incomplete l hfound | invalid l fault hfound =>
    rw [process_eq, hfound]
    exact h
  | refused l payload fault hfound hd =>
    rw [process_refused hfound hd]
    exact open_dispatch (l := l.counted) payload h
  | next l payload hfound hd ih =>
    rw [process_next hfound hd]
    exact ih (open_dispatch (l := l.counted) payload h)

theorem open_step [Client σ] {l : Link σ} {op : Op} (hop : op.staysOpen = true) (h : l.Open) :
    (l.step op).1.Open := by
  cases op with
  | process => exact open_process h
  | connect e | established localEnd now | reset | close => cases hop
  | makeRoom | heard data | fill | pushAhead p | wrote n | handOver | tick now | steer actions
  | calm | abandonPending => exact h

theorem open_run [Client σ] {l : Link σ} {ops : List Op} (hops : ∀ op ∈ ops, op.staysOpen = true)
    (h : l.Open) : (l.run ops).Open := by
  induction ops generalizing l with
  | nil => exact h
  | cons op ops ih =>
    exact ih (fun op hop => hops op (List.mem_cons_of_mem _ hop))
      (open_step (hops op List.mem_cons_self) h)

end Link

namespace Transport

variable {σ α ω : Type}

open Link

/-- The attempt, the stream and the stage of the link agree. -/
structure Agrees (t : Transport σ) : Prop where
  apart : ¬(t.dialing = true ∧ t.live = true)
  dialing : t.dialing = true → t.link.stage = .connecting
  live : t.live = true ↔ t.link.stage = .handshaking ∨ t.link.stage = .ready
  connected : t.link.phase.isConnected = true ↔ t.live = true ∧ t.link.control.closing = false
  closed : t.link.stage = .closed → t.dialing = false ∧ t.live = false
  bare : t.live = false → t.link.Bare

/-- A stream is held and no attempt, and the link is open. -/
structure Up (t : Transport σ) : Prop where
  dialing : t.dialing = false
  live : t.live = true
  link : t.link.Open

/-- No stream is held, and nothing of a connection is left. -/
structure Down (t : Transport σ) : Prop where
  live : t.live = false
  dialing : t.dialing = true → t.link.stage = .connecting
  link : ¬t.link.Open
  bare : t.link.Bare

theorem Up.agrees {t : Transport σ} (h : t.Up) : t.Agrees where
  apart := by simp [h.dialing]
  dialing := by simp [h.dialing]
  live := ⟨fun _ => h.link, fun _ => h.live⟩
  connected := by rw [isConnected_phase_iff, and_iff_right h.link, and_iff_right h.live]
  closed := by
    intro hclosed
    rcases h.link with hopen | hopen <;> rw [hclosed] at hopen <;> cases hopen
  bare := by simp [h.live]

theorem Down.agrees {t : Transport σ} (h : t.Down) : t.Agrees where
  apart := by simp [h.live]
  dialing := h.dialing
  live := ⟨by simp [h.live], fun hopen => absurd hopen h.link⟩
  connected := by
    rw [isConnected_phase_iff]
    simp [h.live, h.link]
  closed := by
    intro hclosed
    refine ⟨?_, h.live⟩
    cases hdialing : t.dialing with
    | false => rfl
    | true =>
      have hconnecting := h.dialing hdialing
      rw [hclosed] at hconnecting
      cases hconnecting
  bare := fun _ => h.bare

/-- A transport that agrees is up or down. -/
theorem Agrees.up_or_down {t : Transport σ} (h : t.Agrees) : t.Up ∨ t.Down := by
  cases hlive : t.live with
  | true =>
    refine .inl ⟨?_, hlive, h.live.mp hlive⟩
    cases hdialing : t.dialing with
    | false => rfl
    | true => exact absurd ⟨hdialing, hlive⟩ h.apart
  | false =>
    refine .inr ⟨hlive, h.dialing, fun hopen => ?_, h.bare hlive⟩
    rw [h.live.mpr hopen] at hlive
    cases hlive

/-! ## Single operations -/

/-- What keeps the stage and leaves a bare link bare may happen at any time. -/
theorem Agrees.relink {t : Transport σ} (h : t.Agrees) {l : Link σ}
    (hstage : l.stage = t.link.stage) (hbare : t.link.Bare → l.Bare) :
    Agrees { t with link := l } := by
  have hopen : l.Open ↔ t.link.Open := by rw [Open, Open, hstage]
  rcases h.up_or_down with up | down
  · exact Up.agrees ⟨up.dialing, up.live, hopen.mpr up.link⟩
  · refine Down.agrees ⟨down.live, fun hdialing => ?_, fun ho => down.link (hopen.mp ho),
      hbare down.bare⟩
    rw [hstage]
    exact down.dialing hdialing

/-- Nothing of a connection is in the control, the clocks, the waiting requests and the journal. -/
theorem Agrees.beside {t : Transport σ} (h : t.Agrees) (control : Control) (liveness : Liveness)
    (pending : List Packet) (journal : List Event) :
    Agrees { t with link := { t.link with control, liveness, pending, journal } } :=
  h.relink rfl fun b => ⟨b.outbound, b.written, b.inbox, b.expected, b.localEnd⟩

theorem agrees_new (settings : Settings) (client : σ) : (new settings client).Agrees :=
  Down.agrees ⟨rfl, by simp [new], by simp [Open, new, Link.new], ⟨rfl, rfl, rfl, rfl, rfl⟩⟩

theorem agrees_connect {t : Transport σ} (e : Endpoint) (h : t.Agrees) :
    (t.connect e).1.Agrees := by
  unfold connect Link.connect
  by_cases hclosed : t.link.phase = .closed
  · rw [if_pos hclosed]
    exact h
  · rw [if_neg hclosed]
    exact Down.agrees ⟨rfl, fun _ => rfl, by simp [Open], ⟨rfl, rfl, rfl, rfl, rfl⟩⟩

theorem agrees_cleanup (t : Transport σ) : t.cleanup.Agrees :=
  Down.agrees ⟨rfl, by simp [cleanup, release], t.link.not_open_reset, t.link.bare_reset⟩

theorem agrees_close {t : Transport σ} (h : t.Agrees) : t.close.Agrees := by
  unfold close
  cases hclosed : t.link.isClosed with
  | true =>
    -- nothing is held any more, and nothing is left
    have hstage : t.link.stage = .closed := of_decide_eq_true hclosed
    refine Down.agrees ⟨rfl, by simp [release], ?_, h.bare (h.closed hstage).2⟩
    simp [Open, hstage]
  | false =>
    refine Down.agrees ⟨rfl, by simp [release], ?_, ⟨rfl, rfl, rfl, rfl, rfl⟩⟩
    simp [Open, Link.close]

theorem agrees_meanwhile {t : Transport σ} (actions : List Control.Action) (now : Nanos)
    (h : t.Agrees) : (t.meanwhile actions now).Agrees :=
  h.beside _ _ _ _

theorem agrees_handOver {t : Transport σ} (h : t.Agrees) :
    Agrees { t with link := t.link.handOver } :=
  h.relink rfl fun b => ⟨b.outbound, rfl, b.inbox, b.expected, b.localEnd⟩

theorem carrier_eq_live {t : Transport σ} (h : t.Up) : t.carrier = .live := by
  simp [carrier, h.dialing, h.live]

theorem up_of_carrier {t : Transport σ} (h : t.Agrees) (hc : t.carrier = .live) : t.Up := by
  rcases h.up_or_down with up | down
  · exact up
  · unfold carrier at hc
    rw [down.live] at hc
    split at hc <;> cases hc

/-! ## Cycles -/

theorem agrees_arm {t : Transport σ} (h : t.Agrees) : t.arm.1.Agrees := by
  unfold arm
  cases hc : t.carrier with
  | absent | dialing => exact h
  | live =>
    have up := up_of_carrier h hc
    exact Up.agrees ⟨up.dialing, up.live, up.link⟩

section Rounds

variable [Client σ] [Carrying α]
  (hcarry : ∀ (t : Transport σ) (report : α), t.Up → (Backend.carry t report).1.Up)

include hcarry

/-- A signal may open a stream or end an attempt, whatever the client says to it. -/
theorem agrees_take {t : Transport σ} (m : Moment (Signal α)) (h : t.Agrees) :
    (t.take m).1.Agrees := by
  have later := agrees_meanwhile m.actions m.now h
  unfold take
  generalize t.meanwhile m.actions m.now = u at later
  cases m.signal with
  | opened localEnd =>
    simp only
    split
    · exact Up.agrees ⟨rfl, rfl, .inl rfl⟩
    · exact later
  | refused fault =>
    simp only
    split
    · rename_i hdialing
      rcases later.up_or_down with up | down
      · rw [carrier_eq_live up] at hdialing
        cases hdialing
      · exact Down.agrees ⟨down.live, by simp, down.link, down.bare⟩
    · exact later
  | traffic report =>
    simp only
    split
    · rename_i hlive
      exact (hcarry u report (up_of_carrier later hlive)).agrees
    · exact later
  | woken => exact later.beside _ _ _ _
  | elapsed => exact later

theorem agrees_rounds (await : ω → Wait → Bool → Option (Moment (Signal α) × ω)) (fuel : Nat)
    {t : Transport σ} (around : ω) (h : t.Agrees) : (rounds await fuel t around).1.Agrees := by
  have hready {t u : Transport σ} {offer : Option Wait} (harm : t.arm = (u, offer))
      (h : t.Agrees) : u.Agrees := by
    have hu := agrees_arm h
    rw [harm] at hu
    exact hu
  have htaken {t u v : Transport σ} {offer : Option Wait} {m : Moment (Signal α)} {next : Next}
      (harm : t.arm = (u, offer)) (htake : u.take m = (v, next)) (h : t.Agrees) : v.Agrees := by
    have hv := agrees_take hcarry m (hready harm h)
    rw [htake] at hv
    exact hv
  refine rounds_rec (P := fun t _ u _ => t.Agrees → u.Agrees) ?_ ?_ ?_ ?_ ?_ ?_ ?_ fuel t around h
  · intro t h
    exact h
  · intro t _ h
    exact agrees_close h
  · intro t u harm h
    exact hready harm h
  · intro t u wait harm h
    exact hready harm h
  · intro t u wait m v past w verdict harm htake ih h
    exact ih (htaken harm htake h)
  · intro t u wait m v harm htake h
    exact agrees_handOver (htaken harm htake h)
  · intro t u wait m v fault harm htake h
    exact htaken harm htake h

theorem agrees_cycle (await : ω → Wait → Bool → Option (Moment (Signal α) × ω)) (fuel : Nat)
    {t : Transport σ} (now : Nanos) (around : ω) (h : t.Agrees) :
    (cycle await fuel t now around).1.Agrees := by
  unfold cycle
  split
  · exact h
  · have hticked : Agrees { t with link := t.link.tick now } := h.beside _ _ _ _
    exact agrees_rounds hcarry await fuel around (agrees_handOver hticked)

end Rounds

/-! ## Sending out of band -/

theorem up_takeSent {t : Transport σ} (send : Send) (signal : Sent) (h : t.Up) :
    (t.takeSent send signal).1.Up := by
  cases signal with
  | wrote n =>
    cases send with
    | bytes chunk =>
      simp only [takeSent]
      split
      · exact h
      · exact ⟨h.dialing, h.live, h.link⟩
    | nothing | flush => exact h
  | flushed =>
    cases send with
    | flush => exact ⟨h.dialing, h.live, h.link⟩
    | nothing | bytes chunk => exact h
  | blocked | failed fault | elapsed => exact h

theorem up_drain (flushes : Bool) (await : ω → Send → Option (Moment Sent × ω)) (fuel : Nat)
    {t : Transport σ} (around : ω) (h : t.Up) : (drain flushes await fuel t around).1.Up := by
  have hstep {t u : Transport σ} {m : Moment Sent} {next : Next}
      (htaken : takeSent { t with link := t.link.steer m.actions } t.owed m.signal = (u, next))
      (h : t.Up) : u.Up := by
    have hsteered : Up { t with link := t.link.steer m.actions } := ⟨h.dialing, h.live, h.link⟩
    have hu := up_takeSent t.owed m.signal hsteered
    rw [htaken] at hu
    exact hu
  refine drain_rec (P := fun t _ u _ => t.Up → u.Up) ?_ ?_ ?_ ?_ ?_ fuel t around h
  · intro t h
    exact h
  · intro t _ _ h
    exact h
  · intro t m u past v verdict htaken ih h
    exact ih (hstep htaken h)
  · intro t m u htaken h
    exact hstep htaken h
  · intro t m u fault htaken h
    exact hstep htaken h

theorem agrees_sendAhead (flushes : Bool) (await : ω → Send → Option (Moment Sent × ω)) (fuel : Nat)
    {t : Transport σ} (p : Packet) (around : ω) (h : t.Agrees) :
    (sendAhead flushes await fuel t p around).1.Agrees := by
  unfold sendAhead
  split
  · rename_i hlive
    have hup : Up { t with link := t.link.pushAhead p } := by
      rcases h.up_or_down with up | down
      · exact ⟨up.dialing, up.live, up.link⟩
      · rw [down.live] at hlive
        cases hlive
    exact (up_drain flushes await fuel around hup).agrees
  · exact h

/-! ## Acts -/

section Acts

variable [Client σ] [Carrying α]
  (hcarry : ∀ (t : Transport σ) (report : α), t.Up → (Backend.carry t report).1.Up)

include hcarry

/-- **An act keeps the attempt, the stream and the stage in agreement**, if reports of the stream
leave it open. -/
theorem agrees_perform {t : Transport σ} (act : Act α) (h : t.Agrees) :
    (t.perform act).Agrees := by
  cases act with
  | connect e => exact agrees_connect e h
  | cycle now script => exact agrees_cycle hcarry _ _ now script h
  | sendAhead p script => exact agrees_sendAhead _ _ _ p script h
  | cleanup => exact t.agrees_cleanup
  | close => exact agrees_close h
  | steer actions | abandonPending =>
    exact h.beside _ _ _ _

theorem agrees_run_acts {t : Transport σ} (acts : List (Act α)) (h : t.Agrees) :
    (t.run acts).Agrees := by
  induction acts generalizing t with
  | nil => exact h
  | cons act acts ih => exact ih (agrees_perform hcarry act h)

end Acts

end Transport

/-! ## Backends -/

namespace Streaming

variable {σ : Type} [Client σ]

theorem up_carry (t : Transport σ) (report : Streaming) (h : t.Up) :
    (Backend.carry t report).1.Up := by
  have hopen : (carry t report).1.link.Open := by
    rw [link_carry]
    refine Link.open_run ?_ h.link
    cases report with
    | received data =>
      intro op hop
      rcases eq_or_of_mem_receiveDeeds hop with rfl | rfl <;> rfl
    | wrote n =>
      intro op hop
      simp only [deeds] at hop
      split at hop
      · cases hop
      · obtain rfl := List.mem_singleton.mp hop
        rfl
    | flushed | failed fault => exact fun op hop => by cases hop
  change (carry t report).1.Up
  cases report with
  | received data =>
    refine ⟨?_, ?_, hopen⟩ <;> simp only [carry, receive] <;> split
    exacts [h.dialing, h.dialing, h.live, h.live]
  | wrote n =>
    refine ⟨?_, ?_, hopen⟩ <;> simp only [carry, write] <;> split
    exacts [h.dialing, h.dialing, h.live, h.live]
  | flushed | failed fault => exact ⟨h.dialing, h.live, hopen⟩

end Streaming

namespace Polling

variable {σ : Type} [Client σ]

theorem up_read {t : Transport σ} (outcome : Attempt Bytes) (h : t.Up) :
    (read t outcome).1.Up := by
  cases outcome with
  | blocked | failed fault => exact h
  | done data =>
    simp only [read]
    split
    · exact h
    · exact ⟨h.dialing, h.live, Link.open_process (l := t.link.heard data) h.link⟩

omit [Client σ] in
theorem up_write {t : Transport σ} (outcomes : List (Attempt Nat)) (h : t.Up) :
    (write t outcomes).1.Up := by
  induction outcomes generalizing t with
  | nil => exact h
  | cons outcome outcomes ih =>
    unfold write
    split
    · cases outcome with
      | blocked | failed fault => exact h
      | done n =>
        cases n with
        | zero => exact h
        | succ n => exact ih ⟨h.dialing, h.live, h.link⟩
    · exact h

theorem up_carry (t : Transport σ) (report : Polling) (h : t.Up) :
    (Backend.carry t report).1.Up := by
  change (carry t report).1.Up
  cases report with
  | failed fault => exact h
  | ready reads writes =>
    have hread : (reading t reads).1.Up := by
      cases reads with
      | none => exact h
      | some outcome => exact up_read outcome h
    rw [carry_ready]
    split
    · exact hread
    · exact hread
    · exact up_write _ ⟨hread.dialing, hread.live, hread.link⟩

end Polling

namespace Transport

/-- **What is held agrees with the stage, with both backends.**
    After any acts, whatever the waits came to and wherever they were broken off: an attempt and a
    stream are never both held; with an attempt the stage is `connecting`; with a stream, and never
    else, it is `handshaking` or `ready`, so the link counts as connected exactly if a stream is
    held and nobody has asked to stop; once it is `closed` neither is held; and without a stream
    nothing is framed, written or read ahead, no length is remembered, and there is no own end. -/
theorem agrees_run {σ : Type} [Client σ] (settings : Settings) (client : σ) :
    (∀ acts : List (Act Polling), ((new settings client).run acts).Agrees) ∧
      ∀ acts : List (Act Streaming), ((new settings client).run acts).Agrees :=
  ⟨fun acts => agrees_run_acts Polling.up_carry acts (agrees_new settings client),
    fun acts => agrees_run_acts Streaming.up_carry acts (agrees_new settings client)⟩

end Transport

end Reconnect
