import Mathlib.Algebra.GroupWithZero.Nat
import Reconnect.Client.SessionKeeper
import Reconnect.Proofs.Selecting
import Reconnect.Proofs.Waits

/-!
# Cycles end

With a stream that completes reads and writes a cycle goes on after the stream has opened, after a
wake-up and after a write that left nothing.  Each time it fills the outbound buffer anew, so it is
not the buffer that bounds it, but all that there is to write.

## Protocol

* The backlog of a link is what is framed or queued.  The effort of a transport is the backlog and
  the attempt that is under way: what it can spend on going on.
* A round is expected if it came to something that its wait was for: the end of the attempt, or a
  report that has a use for what there was to send.  A wake-up and the end of the time can come at
  any wait.
* A round that goes on costs effort, unless it was a wake-up.  Packets that are queued meanwhile
  raise the effort: those that the client queues when the stream opens, and those of the holders of
  the control.

## Results

* `Transport.effort_take`: what one round costs that a cycle goes on after.
* `Transport.laps_le`: how often a cycle goes round, whoever queues packets meanwhile.
* `Transport.cycle_ends`: **a cycle goes round at most two times more than there are wake-ups and
  packets to write together**, and so it ends.
-/

namespace Reconnect

/-! ## Packets that are queued -/

namespace Control

/-- The action queues a packet. -/
def Action.queues : Action → Bool
  | pushBack _ | pushFront _ | submit _ => true
  | wake | close | beginAuth | endAuth | prime => false

/-- How many packets the actions queue. -/
def Action.queued (actions : List Action) : Nat := actions.countP queues

theorem length_queue_act (c : Control) (a : Action) :
    (c.act a).queue.length = c.queue.length + Action.queued [a] := by
  cases a <;> simp [act, Action.queued, Action.queues]

theorem length_queue_runActions (c : Control) (actions : List Action) :
    (c.runActions actions).queue.length = c.queue.length + Action.queued actions := by
  induction actions generalizing c with
  | nil => rfl
  | cons a actions ih =>
    have hsplit : Action.queued ([a] ++ actions) = Action.queued [a] + Action.queued actions :=
      List.countP_append
    rw [List.singleton_append] at hsplit
    rw [runActions_cons, ih, length_queue_act, hsplit, Nat.add_assoc]

end Control

namespace Queue

/-- What is taken and what stays is the queue. -/
theorem Selects.length_add {permitted : Kind → Bool} {n : Nat} {q taken rest : Queue}
    (s : Selects permitted n q taken rest) : taken.length + rest.length = q.length := by
  obtain ⟨front, back, rfl, rfl, rfl⟩ := s.border
  have hfront : front.length =
      (sendable permitted front).length + (blocked permitted front).length :=
    List.length_eq_length_filter_add _
  rw [List.length_append, List.length_append]
  omega

end Queue

namespace Link

variable {σ : Type}

/-- How many packets are framed or queued. -/
def backlog (l : Link σ) : Nat := l.outbound.size + l.control.queue.length

@[simp] theorem backlog_tick (l : Link σ) (now : Nanos) : (l.tick now).backlog = l.backlog := rfl

@[simp] theorem backlog_makeRoom (l : Link σ) : l.makeRoom.backlog = l.backlog := rfl

@[simp] theorem backlog_handOver (l : Link σ) : l.handOver.backlog = l.backlog := rfl

@[simp] theorem backlog_steer (l : Link σ) (actions : List Control.Action) :
    (l.steer actions).backlog = l.backlog + Control.Action.queued actions := by
  simp only [backlog, steer, Control.length_queue_runActions]
  omega

/-- Framing packets from the queue leaves the backlog as it is. -/
@[simp] theorem backlog_fill (l : Link σ) : l.fill.backlog = l.backlog := by
  obtain ⟨taken, rest, s, hfill⟩ := l.fill_selects
  have hlength := s.length_add
  simp only [backlog, hfill, Outbound.size, List.length_append, List.length_map]
  omega

theorem backlog_established [Client σ] (l : Link σ) (localEnd : Option Endpoint) (now : Nanos) :
    (l.established localEnd now).1.backlog =
      l.backlog + Control.Action.queued (Client.prime l.client).actions := by
  simp only [backlog, established, absorb, Control.length_queue_runActions]
  omega

/-- A write that leaves nothing of what was framed works some of the backlog off. -/
theorem backlog_wrote_lt {l : Link σ} {n : Nat} (hunsent : l.hasUnsent = true)
    (hleft : (l.wrote n).hasUnsent = false) : (l.wrote n).backlog < l.backlog := by
  have hsome : 0 < l.outbound.size := by
    simpa [hasUnsent, Outbound.isEmpty, Outbound.size, List.length_pos_iff] using hunsent
  have hnone : (l.wrote n).outbound.size = 0 := by
    simpa [hasUnsent, Outbound.isEmpty, Outbound.size] using hleft
  have hqueue : (l.wrote n).control.queue = l.control.queue := rfl
  rw [backlog, backlog, hnone, hqueue]
  omega

end Link

/-! ## Rounds -/

namespace Round

variable {σ α : Type}

/-- The wait was ended by a wake-up. -/
def woken : Round σ α → Bool
  | stopped _ | stranded _ => false
  | waited _ m =>
    match m.signal with
    | .woken => true
    | .opened _ | .refused _ | .traffic _ | .elapsed => false

/-- How many packets the client queues because the stream has opened. -/
def primed [Client σ] : Round σ α → Nat
  | stopped _ | stranded _ => 0
  | waited t m =>
    match m.signal with
    | .opened _ =>
      if t.carrier = .dialing then Control.Action.queued (Client.prime t.link.client).actions else 0
    | .refused _ | .traffic _ | .woken | .elapsed => 0

/-- How many packets the holders of the control queue meanwhile. -/
def submitted : Round σ α → Nat
  | stopped _ | stranded _ => 0
  | waited _ m => Control.Action.queued m.actions

/-- What the wait came to is something that it was for. -/
def expected : Round σ Streaming → Bool
  | stopped _ | stranded _ => true
  | waited t m =>
    match m.signal with
    | .opened _ | .refused _ => t.carrier = .dialing
    | .traffic report => t.carrier = .live && report.offered t.send
    | .woken | .elapsed => true

end Round

namespace Transport

variable {σ ω : Type}

/-- What a transport can spend on going on: packets to write, and the attempt that is under way. -/
def effort (t : Transport σ) : Nat := t.link.backlog + if t.dialing then 1 else 0

theorem effort_le (t : Transport σ) : t.effort ≤ t.link.backlog + 1 := by
  unfold effort
  split <;> omega

theorem effort_of_arm {t u : Transport σ} {offer : Option Wait} (harm : t.arm = (u, offer)) :
    u.effort = t.effort := by
  obtain rfl : t.arm.1 = u := congrArg Prod.fst harm
  unfold arm
  cases t.carrier with
  | absent | dialing => rfl
  | live => simp [effort]

theorem dialing_of_carrier {t : Transport σ} (h : t.carrier = .dialing) : t.dialing = true := by
  unfold carrier at h
  split at h
  · assumption
  · split at h <;> cases h

theorem effort_meanwhile (t : Transport σ) (actions : List Control.Action) (now : Nanos) :
    (t.meanwhile actions now).effort = t.effort + Control.Action.queued actions := by
  show ((t.link.steer actions).tick now).backlog + (if t.dialing then 1 else 0) = _
  rw [Link.backlog_tick, Link.backlog_steer, effort]
  omega

theorem hasUnsent_of_offered {t : Transport σ} {n : Nat}
    (h : (Streaming.wrote n).offered t.send = true) : t.link.hasUnsent = true := by
  unfold send at h
  split at h
  · assumption
  · split at h <;> cases h

section Rounds

variable [Client σ]

/-- A report that a cycle goes on after was a write that left nothing. -/
theorem effort_carry {t v : Transport σ} {report : Streaming}
    (hoffered : report.offered t.send = true) (h : Backend.carry t report = (v, .again)) :
    v.effort < t.effort := by
  cases report with
  | received data =>
    change Streaming.receive t data = (v, .again) at h
    unfold Streaming.receive at h
    split at h
    · cases h
    · cases hfault : (t.link.heard data).process.2 <;> simp [hfault, Next.orFail] at h
  | wrote n =>
    change Streaming.write t n = (v, .again) at h
    unfold Streaming.write at h
    split at h
    · cases h
    · obtain ⟨rfl, hnext⟩ := Prod.mk.inj h
      have hleft : (t.link.wrote n).hasUnsent = false := by
        cases hunsent : (t.link.wrote n).hasUnsent with
        | false => rfl
        | true =>
          rw [hunsent] at hnext
          cases hnext
      have hless := Link.backlog_wrote_lt (hasUnsent_of_offered hoffered) hleft
      exact Nat.add_lt_add_right hless _
  | flushed | failed fault => cases h

/-- When the stream opens, the attempt is over and the client queues its packets. -/
theorem effort_opened {t v : Transport σ} {localEnd : Option Endpoint} {now : Nanos}
    (hdialing : t.dialing = true) (h : t.opened localEnd now = (v, .again)) :
    v.effort + 1 = t.effort + Control.Action.queued (Client.prime t.link.client).actions := by
  obtain rfl : (t.opened localEnd now).1 = v := congrArg Prod.fst h
  show (t.link.established localEnd now).1.backlog + 0 + 1 = _
  rw [Link.backlog_established, effort, if_pos hdialing]
  omega

/-- **A round that a cycle goes on after costs effort**, unless it was a wake-up; packets that are
queued meanwhile raise it. -/
theorem effort_take {t v : Transport σ} {m : Moment (Signal Streaming)}
    (hexpected : (Round.waited t m).expected = true) (h : t.take m = (v, .again)) :
    v.effort + 1 ≤ t.effort + (if (Round.waited t m).woken then 1 else 0) +
      (Round.waited t m).primed + (Round.waited t m).submitted := by
  obtain ⟨actions, now, signal⟩ := m
  have hmeanwhile := t.effort_meanwhile actions now
  cases signal with
  | opened localEnd =>
    have hdialing : t.carrier = .dialing := of_decide_eq_true hexpected
    change (if t.carrier = .dialing then (t.meanwhile actions now).opened localEnd now
      else (t.meanwhile actions now, .again)) = (v, .again) at h
    rw [if_pos hdialing] at h
    have hopened := effort_opened (t := t.meanwhile actions now) (dialing_of_carrier hdialing) h
    show v.effort + 1 ≤ t.effort + 0 + (if t.carrier = .dialing then
      Control.Action.queued (Client.prime t.link.client).actions else 0) +
        Control.Action.queued actions
    rw [if_pos hdialing]
    change v.effort + 1 = _ + Control.Action.queued (Client.prime t.link.client).actions at hopened
    omega
  | refused fault =>
    have hdialing : t.carrier = .dialing := of_decide_eq_true hexpected
    change (if t.carrier = .dialing then ({ t.meanwhile actions now with dialing := false },
      Next.fail fault) else (t.meanwhile actions now, .again)) = (v, .again) at h
    rw [if_pos hdialing] at h
    cases h
  | traffic report =>
    change (decide (t.carrier = .live) && report.offered t.send) = true at hexpected
    rw [Bool.and_eq_true, decide_eq_true_eq] at hexpected
    obtain ⟨hlive, hoffered⟩ := hexpected
    change (if t.carrier = .live then Backend.carry (t.meanwhile actions now) report
      else (t.meanwhile actions now, .again)) = (v, .again) at h
    rw [if_pos hlive] at h
    have hless := effort_carry (t := t.meanwhile actions now) hoffered h
    show v.effort + 1 ≤ t.effort + 0 + 0 + Control.Action.queued actions
    omega
  | woken =>
    obtain rfl : (t.meanwhile actions now).wake = v := congrArg Prod.fst h
    show (t.meanwhile actions now).effort + 1 ≤ t.effort + 1 + 0 + Control.Action.queued actions
    omega
  | elapsed => cases h

/-! ## How often a cycle goes round -/

/-- How often a loop has gone round that has come to rounds and to a verdict.  A wait that is not
over has begun a round, too. -/
def lapsOf (h : List (Round σ Streaming)) (verdict : Verdict) : Nat :=
  h.length + if verdict = .waiting then 1 else 0

/-- The packets that the client queues in some rounds because the stream opens. -/
def primedIn (h : List (Round σ Streaming)) : Nat := (h.map Round.primed).sum

/-- The packets that the holders of the control queue in some rounds. -/
def submittedIn (h : List (Round σ Streaming)) : Nat := (h.map Round.submitted).sum

theorem lapsOf_rounds_le (await : ω → Wait → Bool → Option (Moment (Signal Streaming) × ω))
    (fuel : Nat) (t : Transport σ) (around : ω) :
    (∀ r ∈ roundsWaits await fuel t around, r.expected = true) →
    lapsOf (roundsWaits await fuel t around) (rounds await fuel t around).2.2 ≤
      t.effort + (roundsWaits await fuel t around).countP Round.woken +
        primedIn (roundsWaits await fuel t around) +
        submittedIn (roundsWaits await fuel t around) + 1 := by
  -- every round but the last is one that the cycle goes on after
  refine rounds_rec (P := fun t h _ verdict => (∀ r ∈ h, r.expected = true) →
    lapsOf h verdict ≤ t.effort + h.countP Round.woken + primedIn h + submittedIn h + 1)
    ?_ ?_ ?_ ?_ ?_ ?_ ?_ fuel t around
  · intro t _
    simp [lapsOf]
  · intro t _ _
    simp [lapsOf]
  · intro t u _ _
    simp [lapsOf]
  · intro t u wait _ _
    simp [lapsOf]
  · intro t u wait m v h w verdict harm htake ih hexpected
    have hrest := ih fun r hr => hexpected r (List.mem_cons_of_mem _ hr)
    have hstep := effort_take (hexpected _ List.mem_cons_self) htake
    rw [effort_of_arm harm] at hstep
    simp only [lapsOf, primedIn, submittedIn, List.length_cons, List.countP_cons, List.map_cons,
      List.sum_cons] at hrest ⊢
    omega
  · intro t u wait m v _ _ _
    simp [lapsOf]
  · intro t u wait m v fault _ _ _
    simp [lapsOf]

/-- If every wait comes to something, a cycle that is not over has used up its fuel. -/
theorem length_roundsWaits {await : ω → Wait → Bool → Option (Moment (Signal Streaming) × ω)}
    (hawait : ∀ around wait kept, await around wait kept ≠ none) (fuel : Nat) (t : Transport σ)
    (around : ω) : (rounds await fuel t around).2.2 = .waiting →
      (roundsWaits await fuel t around).length = fuel := by
  induction fuel generalizing t around with
  | zero =>
    intro _
    rfl
  | succ fuel ih =>
    rw [rounds, roundsWaits]
    by_cases hclosing : t.link.control.closing = true
    · rw [if_pos hclosing]
      intro h
      cases h
    · rw [if_neg hclosing, if_neg hclosing]
      obtain ⟨u, offer⟩ := t.arm
      cases offer with
      | none =>
        intro h
        cases h
      | some wait =>
        simp only
        cases hfound : await around wait u.link.control.woken with
        | none => exact absurd hfound (hawait _ _ _)
        | some found =>
          obtain ⟨m, around⟩ := found
          simp only
          obtain ⟨v, next⟩ := u.take m
          cases next with
          | again =>
            intro h
            rw [List.length_cons, ih v around h]
          | finish | fail fault =>
            intro h
            cases h

/-- The rounds of a cycle; a transport that is shut down has none. -/
def cycleRounds (await : ω → Wait → Bool → Option (Moment (Signal Streaming) × ω)) (fuel : Nat)
    (t : Transport σ) (now : Nanos) (around : ω) : List (Round σ Streaming) :=
  if t.link.isClosed then []
  else roundsWaits await fuel { t with link := (t.link.tick now).handOver } around

/-- How often a cycle goes round its loop. -/
def laps (await : ω → Wait → Bool → Option (Moment (Signal Streaming) × ω)) (fuel : Nat)
    (t : Transport σ) (now : Nanos) (around : ω) : Nat :=
  lapsOf (t.cycleRounds await fuel now around) (t.cycle await fuel now around).2.2

theorem laps_le {await : ω → Wait → Bool → Option (Moment (Signal Streaming) × ω)} {fuel : Nat}
    {t : Transport σ} {now : Nanos} {around : ω}
    (hexpected : ∀ r ∈ t.cycleRounds await fuel now around, r.expected = true) :
    t.laps await fuel now around ≤
      (t.cycleRounds await fuel now around).countP Round.woken +
        (t.link.backlog + primedIn (t.cycleRounds await fuel now around) +
          submittedIn (t.cycleRounds await fuel now around)) + 2 := by
  unfold laps cycleRounds cycle at *
  split
  · simp [lapsOf]
  · rename_i hopen
    rw [if_neg hopen] at hexpected
    have hlaps := lapsOf_rounds_le await fuel { t with link := (t.link.tick now).handOver } around
      hexpected
    have heffort := effort_le { t with link := (t.link.tick now).handOver }
    simp only [Link.backlog_handOver, Link.backlog_tick] at heffort
    omega

/-- **A cycle ends.**
    Whatever the transport and its surroundings: if each wait came to something that it was for, and
    nobody but the client queued packets meanwhile, then a cycle goes round its loop at most two
    times more than there were wake-ups and packets together: the packets that were framed or queued at
    its start and those that the client queued because the stream opened.  If every wait comes to
    something, a cycle that may go round so often is over in the end. -/
theorem cycle_ends (await : ω → Wait → Bool → Option (Moment (Signal Streaming) × ω)) (fuel : Nat)
    (t : Transport σ) (now : Nanos) (around : ω)
    (hexpected : ∀ r ∈ t.cycleRounds await fuel now around, r.expected = true)
    (halone : ∀ r ∈ t.cycleRounds await fuel now around, r.submitted = 0) :
    t.laps await fuel now around ≤
      (t.cycleRounds await fuel now around).countP Round.woken +
        (t.link.backlog + primedIn (t.cycleRounds await fuel now around)) + 2 ∧
    ((∀ around wait kept, await around wait kept ≠ none) →
      (t.cycleRounds await fuel now around).countP Round.woken +
        (t.link.backlog + primedIn (t.cycleRounds await fuel now around)) + 2 ≤ fuel →
      (t.cycle await fuel now around).2.2 ≠ .waiting) := by
  have hnone : submittedIn (t.cycleRounds await fuel now around) = 0 := by
    refine List.sum_eq_zero_iff_forall_eq_nat.mpr fun n hn => ?_
    obtain ⟨r, hr, rfl⟩ := List.mem_map.mp hn
    exact halone r hr
  have hlaps := laps_le hexpected
  rw [hnone, Nat.add_zero] at hlaps
  refine ⟨hlaps, fun hawait hfuel hwaiting => ?_⟩
  have hlength : (t.cycleRounds await fuel now around).length = fuel := by
    unfold cycle at hwaiting
    unfold cycleRounds
    split at hwaiting
    · cases hwaiting
    · rename_i hopen
      rw [if_neg hopen]
      exact length_roundsWaits hawait fuel _ around hwaiting
  rw [laps, lapsOf, hwaiting, if_pos rfl, hlength] at hlaps
  omega

end Rounds

/-- A stream opens, the connect request is written, somebody wakes the transport, and the flush that
is due is done. -/
def opening : List (Moment (Signal Streaming)) :=
  [just (.opened none), just (.traffic (.wrote 49)), just .woken, just (.traffic .flushed)]

/-- Surroundings with a script, in which nothing happens any more once it is over. -/
def quietly (script : List (Moment (Signal Streaming))) (_ : Wait) (_ : Bool) :
    Option (Moment (Signal Streaming) × List (Moment (Signal Streaming))) :=
  some (script.headD (just .elapsed), script.tail)

/-- A transport whose attempt to open a stream is under way. -/
def calling : Transport SessionKeeper :=
  ((new {} SessionKeeper.anew).connect ⟨.v4 0, 0⟩).1

theorem cycle_ends_opening :
    (∀ r ∈ calling.cycleRounds quietly 4 0 opening, r.expected = true) ∧
    (∀ r ∈ calling.cycleRounds quietly 4 0 opening, r.submitted = 0) ∧
    calling.laps quietly 4 0 opening ≤ 1 + (0 + 1) + 2 ∧
    calling.laps quietly 4 0 opening = 4 ∧
    (calling.cycle quietly 4 0 opening).2.2 ≠ .waiting := by
  have hexpected : ∀ r ∈ calling.cycleRounds quietly 4 0 opening, r.expected = true := by
    decide +kernel
  have halone : ∀ r ∈ calling.cycleRounds quietly 4 0 opening, r.submitted = 0 := by
    decide +kernel
  obtain ⟨hlaps, hends⟩ := cycle_ends quietly 4 calling 0 opening hexpected halone
  refine ⟨hexpected, halone, hlaps, by decide +kernel, hends ?_ (by decide +kernel)⟩
  intro script wait kept h
  cases h

end Transport

end Reconnect
