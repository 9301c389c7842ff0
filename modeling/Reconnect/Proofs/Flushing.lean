import Reconnect.Proofs.SendingAhead

/-!
# Flushes that are due

A stream that completes writes may hold bytes back until it is flushed.  A cycle that writes keeps a
flush due until one is over.  Sending ahead writes and flushes on its own, and can end in between:
then the flush is due only if it was due before, and otherwise nothing asks for it any more until
something else is written.

## Protocol

* What happens to the bytes of a stream is told in pulses: a cycle writes some, some are pushed into
  the stream ahead of the queue, a flush is over, or the stream is given up.
* What is unsettled was written or pushed since the last flush that was over on the stream.

## Results

* `Transport.unflushed_run`: whether a flush is due is a function of the pulses.
* `Transport.flush_due_iff`: **a flush is due exactly if a cycle wrote something unsettled.**
* `Transport.flush_forgotten`: a run that leaves unsettled bytes without a flush that is due.
-/

namespace Reconnect

/-- What happens to the bytes of a stream. -/
inductive Pulse where
  /-- A cycle wrote bytes. -/
  | wrote (n : Nat)
  /-- Bytes were written while a packet was sent ahead. -/
  | pushed (n : Nat)
  | flushed
  /-- The stream is given up. -/
  | dropped
deriving DecidableEq, Repr

namespace Pulse

/-- Nothing that was written before waits for a flush. -/
def settles : Pulse → Bool
  | wrote _ | pushed _ => false
  | flushed | dropped => true

/-- What was written since the last flush that was over on the stream. -/
def unsettled (h : List Pulse) : List Pulse := h.rtakeWhile fun p => !p.settles

/-- Whether a flush is due after a pulse, if it was due before or not. -/
def due (before : Bool) : Pulse → Bool
  | wrote _ => true
  | pushed _ => before
  | flushed | dropped => false

theorem unsettled_concat (h : List Pulse) (p : Pulse) :
    unsettled (h ++ [p]) = if p.settles then [] else unsettled h ++ [p] :=
  rtakeWhile_not_concat settles h p

/-- What is unsettled in the end was unsettled before, or is unsettled in the rest. -/
theorem mem_unsettled_append {p : Pulse} (h k : List Pulse) (hp : p ∈ unsettled (h ++ k)) :
    p ∈ unsettled h ∨ p ∈ unsettled k := by
  induction k using List.reverseRecOn with
  | nil =>
    rw [List.append_nil] at hp
    exact .inl hp
  | append_singleton k q ih =>
    rw [← List.append_assoc, unsettled_concat] at hp
    rw [unsettled_concat]
    split at hp
    · cases hp
    · rename_i hq
      rw [if_neg hq]
      rcases List.mem_append.mp hp with hp | hp
      · exact (ih hp).imp_right (List.mem_append_left [q])
      · exact .inr (List.mem_append_right _ hp)

theorem mem_of_mem_unsettled {p : Pulse} {h : List Pulse} (hp : p ∈ unsettled h) : p ∈ h := by
  obtain ⟨front, hfront⟩ := List.rtakeWhile_suffix (fun p : Pulse => !p.settles) h
  rw [← hfront]
  exact List.mem_append_right front hp

/-- A flush is due in the end exactly if a cycle wrote something that is unsettled. -/
theorem foldl_due (h : List Pulse) :
    h.foldl due false = true ↔ ∃ n, wrote n ∈ unsettled h := by
  induction h using List.reverseRecOn with
  | nil => simp [unsettled]
  | append_singleton h p ih =>
    rw [List.foldl_append, unsettled_concat]
    cases p with
    | wrote n =>
      refine iff_of_true rfl ⟨n, ?_⟩
      exact List.mem_append_right (unsettled h) List.mem_cons_self
    | pushed n =>
      show h.foldl due false = true ↔ ∃ k, wrote k ∈ unsettled h ++ [pushed n]
      rw [ih]
      simp
    | flushed | dropped =>
      refine iff_of_false Bool.false_ne_true ?_
      rintro ⟨n, hn⟩
      cases hn

end Pulse

/-- What the report of a finished operation says of the bytes of the stream. -/
def Streaming.pulses : Streaming → List Pulse
  | wrote n => if n = 0 then [] else [.wrote n]
  | flushed => [.flushed]
  | received _ | failed _ => []

variable {σ : Type}

/-- What a round says of the bytes of the stream. -/
def Round.pulses : Round σ Streaming → List Pulse
  | stopped _ => [.dropped]
  | stranded _ => []
  | waited t m =>
    match m.signal with
    | .traffic report => if t.carrier = .live then report.pulses else []
    | .opened _ | .refused _ | .woken | .elapsed => []

/-- What a wait while a packet is sent ahead says of the bytes of the stream. -/
def Portion.pulses (w : Portion σ) : List Pulse :=
  match w.transport.owed, w.moment.signal with
  | .bytes _, .wrote n => if n = 0 then [] else [.pushed n]
  | .flush, .flushed => [.flushed]
  | _, _ => []

namespace Transport

variable [Client σ]

/-- What happens to the bytes of the stream in an act. -/
def pulses (t : Transport σ) : Act Streaming → List Pulse
  | .connect e => if (t.connect e).2.isSome then [] else [.dropped]
  | .cycle now script =>
    if t.link.isClosed then []
    else (roundsWaits (fun script _ _ => line? script) (script.length + 1)
      { t with link := (t.link.tick now).handOver } script).flatMap Round.pulses
  | .sendAhead p script =>
    if t.live then (t.aheadWaits Streaming p script).flatMap Portion.pulses else []
  | .cleanup | .close => [.dropped]
  | .steer _ | .abandonPending => []

/-- What happens to the bytes of the streams, in acts one after the other. -/
def streamed (t : Transport σ) : List (Act Streaming) → List Pulse
  | [] => []
  | act :: acts => t.pulses act ++ (t.perform act).streamed acts

theorem streamed_concat (t : Transport σ) (acts : List (Act Streaming)) (act : Act Streaming) :
    t.streamed (acts ++ [act]) = t.streamed acts ++ (t.run acts).pulses act := by
  induction acts generalizing t with
  | nil => exact List.append_nil _
  | cons first acts ih =>
    show t.pulses first ++ (t.perform first).streamed (acts ++ [act]) = _
    rw [ih, ← List.append_assoc]
    rfl

/-! ## What keeps a flush due -/

omit [Client σ] in
theorem unflushed_of_arm {t u : Transport σ} {offer : Option Wait} (harm : t.arm = (u, offer)) :
    u.unflushed = t.unflushed := by
  obtain rfl : t.arm.1 = u := congrArg Prod.fst harm
  unfold arm
  cases t.carrier <;> rfl

theorem unflushed_carry (t : Transport σ) (report : Streaming) :
    (Backend.carry t report).1.unflushed = report.pulses.foldl Pulse.due t.unflushed := by
  cases report with
  | received data =>
    show (Streaming.receive t data).1.unflushed = t.unflushed
    unfold Streaming.receive
    split <;> rfl
  | wrote n =>
    show (Streaming.write t n).1.unflushed =
      (if n = 0 then [] else [Pulse.wrote n]).foldl Pulse.due t.unflushed
    unfold Streaming.write
    split <;> rfl
  | flushed | failed fault => rfl

theorem unflushed_take (t : Transport σ) (m : Moment (Signal Streaming)) :
    (t.take m).1.unflushed = (Round.waited t m).pulses.foldl Pulse.due t.unflushed := by
  obtain ⟨actions, now, signal⟩ := m
  cases signal with
  | traffic report =>
    show (if t.carrier = .live then Backend.carry (t.meanwhile actions now) report
        else (t.meanwhile actions now, .again)).1.unflushed =
      (if t.carrier = .live then report.pulses else []).foldl Pulse.due t.unflushed
    split
    · exact unflushed_carry (t.meanwhile actions now) report
    · rfl
  | opened localEnd =>
    show (if t.carrier = .dialing then (t.meanwhile actions now).opened localEnd now
      else (t.meanwhile actions now, .again)).1.unflushed = t.unflushed
    split <;> rfl
  | refused fault =>
    show (if t.carrier = .dialing then ({ t.meanwhile actions now with dialing := false },
      Next.fail fault) else (t.meanwhile actions now, .again)).1.unflushed = t.unflushed
    split <;> rfl
  | woken | elapsed => rfl

/-- Whether a flush is due after the rounds of a cycle. -/
theorem unflushed_rounds {ω : Type}
    (await : ω → Wait → Bool → Option (Moment (Signal Streaming) × ω)) (fuel : Nat)
    (t : Transport σ) (around : ω) :
    (rounds await fuel t around).1.unflushed =
      ((roundsWaits await fuel t around).flatMap Round.pulses).foldl Pulse.due t.unflushed := by
  have hstep {t u v : Transport σ} {offer : Option Wait} {m : Moment (Signal Streaming)}
      {next : Next} (harm : t.arm = (u, offer)) (htake : u.take m = (v, next)) :
      v.unflushed = (Round.waited u m).pulses.foldl Pulse.due t.unflushed := by
    have hv := u.unflushed_take m
    rw [htake, unflushed_of_arm harm] at hv
    exact hv
  refine rounds_rec
    (P := fun t h u _ => u.unflushed = (h.flatMap Round.pulses).foldl Pulse.due t.unflushed)
    ?_ ?_ ?_ ?_ ?_ ?_ ?_ fuel t around
  · intro t
    rfl
  · intro t _
    rfl
  · intro t u harm
    exact unflushed_of_arm harm
  · intro t u wait harm
    exact unflushed_of_arm harm
  · intro t u wait m v h w verdict harm htake ih
    rw [List.flatMap_cons, List.foldl_append, ← hstep harm htake]
    exact ih
  · intro t u wait m v harm htake
    have hv := hstep harm htake
    rw [List.flatMap_singleton]
    exact hv
  · intro t u wait m v fault harm htake
    rw [List.flatMap_singleton]
    exact hstep harm htake

omit [Client σ] in
theorem unflushed_takeSent (w : Portion σ) (next : Next) (u : Transport σ)
    (htaken : takeSent { w.transport with link := w.transport.link.steer w.moment.actions }
      w.transport.owed w.moment.signal = (u, next)) :
    u.unflushed = w.pulses.foldl Pulse.due w.transport.unflushed := by
  obtain rfl : _ = u := congrArg Prod.fst htaken
  unfold takeSent Portion.pulses
  cases w.moment.signal with
  | wrote n =>
    cases w.transport.owed with
    | bytes chunk =>
      simp only
      split <;> rfl
    | nothing | flush => rfl
  | flushed => cases w.transport.owed <;> rfl
  | blocked | failed fault | elapsed => cases w.transport.owed <;> rfl

omit [Client σ] in
/-- Whether a flush is due after sending ahead. -/
theorem unflushed_drain {ω : Type} (flushes : Bool)
    (await : ω → Send → Option (Moment Sent × ω)) (fuel : Nat) (t : Transport σ) (around : ω) :
    (drain flushes await fuel t around).1.unflushed =
      ((drainWaits flushes await fuel t around).flatMap Portion.pulses).foldl Pulse.due
        t.unflushed := by
  refine drain_rec
    (P := fun t h u _ => u.unflushed = (h.flatMap Portion.pulses).foldl Pulse.due t.unflushed)
    ?_ ?_ ?_ ?_ ?_ fuel t around
  · intro t
    rfl
  · intro t _ _
    rfl
  · intro t m u h v verdict htaken ih
    rw [List.flatMap_cons, List.foldl_append, ← unflushed_takeSent ⟨t, m⟩ _ u htaken]
    exact ih
  · intro t m u htaken
    rw [List.flatMap_singleton]
    exact unflushed_takeSent ⟨t, m⟩ _ u htaken
  · intro t m u fault htaken
    rw [List.flatMap_singleton]
    exact unflushed_takeSent ⟨t, m⟩ _ u htaken

theorem unflushed_perform (t : Transport σ) (act : Act Streaming) :
    (t.perform act).unflushed = (t.pulses act).foldl Pulse.due t.unflushed := by
  cases act with
  | connect e =>
    show (t.connect e).1.unflushed =
      (if (t.connect e).2.isSome then [] else [Pulse.dropped]).foldl Pulse.due t.unflushed
    unfold connect
    cases hbegun : (t.link.connect e).2 <;> simp only [hbegun] <;> rfl
  | cycle now script =>
    show (t.cycle _ _ now script).1.unflushed = _
    rw [cycle, pulses]
    split
    · rfl
    · exact unflushed_rounds _ _ { t with link := (t.link.tick now).handOver } script
  | sendAhead p script =>
    show (sendAhead _ _ _ t p script).1.unflushed = _
    rw [sendAhead, pulses]
    split
    · exact unflushed_drain _ _ _ { t with link := t.link.pushAhead p } script
    · rfl
  | cleanup | close | steer actions | abandonPending => rfl

/-- Whether a flush is due is a function of what has happened to the bytes of the streams. -/
theorem unflushed_run (t : Transport σ) (acts : List (Act Streaming)) :
    (t.run acts).unflushed = (t.streamed acts).foldl Pulse.due t.unflushed := by
  induction acts generalizing t with
  | nil => rfl
  | cons act acts ih =>
    show ((t.perform act).run acts).unflushed = _
    rw [ih, unflushed_perform, streamed, List.foldl_append]

/-! ## What can be forgotten -/

omit [Client σ] in
theorem pushed_notMem_pulses {n : Nat} (r : Round σ Streaming) : Pulse.pushed n ∉ r.pulses := by
  cases r with
  | stopped t | stranded t => simp [Round.pulses]
  | waited t m =>
    obtain ⟨actions, now, signal⟩ := m
    cases signal with
    | traffic report =>
      show Pulse.pushed n ∉ if t.carrier = .live then report.pulses else []
      cases report with
      | wrote k =>
        simp only [Streaming.pulses]
        split <;> [split; skip] <;> simp
      | received data | flushed | failed fault =>
        split <;> simp [Streaming.pulses]
    | opened localEnd | refused fault | woken | elapsed => exact List.not_mem_nil

omit [Client σ] in
/-- Sending ahead that has finished has flushed at last. -/
theorem flushed_of_finished {ω : Type} (await : ω → Send → Option (Moment Sent × ω)) (fuel : Nat)
    (t : Transport σ) (around : ω) :
    (drain true await fuel t around).2.2 = .finished →
      ∃ front, (drainWaits true await fuel t around).flatMap Portion.pulses = front ++ [.flushed] := by
  refine drain_rec (P := fun _ h _ verdict => verdict = .finished →
    ∃ front, h.flatMap Portion.pulses = front ++ [.flushed]) ?_ ?_ ?_ ?_ ?_ fuel t around
  · intro t h
    cases h
  · intro t _ hflushes
    cases hflushes
  · intro t m u h v verdict _ ih hverdict
    obtain ⟨front, hfront⟩ := ih hverdict
    refine ⟨(⟨t, m⟩ : Portion σ).pulses ++ front, ?_⟩
    rw [List.flatMap_cons, hfront, List.append_assoc]
  · intro t m u htaken _
    obtain ⟨howed, hsignal, -⟩ := flush_of_finish htaken
    refine ⟨[], ?_⟩
    rw [List.flatMap_singleton, Portion.pulses]
    simp only [howed, hsignal]
    rfl
  · intro t m u fault _ h
    cases h

/-- In an act only sending ahead that has not finished leaves bytes that nobody keeps a flush due
for. -/
theorem unfinished_of_pushed_act {t : Transport σ} {act : Act Streaming} {n : Nat}
    (h : Pulse.pushed n ∈ Pulse.unsettled (t.pulses act)) :
    ∃ p script, act = .sendAhead p script ∧ (t.ahead Streaming p script).2.2 ≠ .finished := by
  cases act with
  | sendAhead p script =>
    refine ⟨p, script, rfl, ?_⟩
    intro hfinished
    by_cases hlive : t.live = true
    · rw [ahead, sendAhead, if_pos hlive] at hfinished
      obtain ⟨front, hfront⟩ := flushed_of_finished _ _ _ _ hfinished
      have hpulses : t.pulses (.sendAhead p script) = front ++ [.flushed] := by
        rw [pulses, if_pos hlive]
        exact hfront
      rw [hpulses, Pulse.unsettled_concat] at h
      cases h
    · rw [pulses, if_neg hlive] at h
      cases h
  | cycle now script =>
    have hmem := Pulse.mem_of_mem_unsettled h
    rw [pulses] at hmem
    split at hmem
    · cases hmem
    · obtain ⟨r, -, hr⟩ := List.mem_flatMap.mp hmem
      exact absurd hr (pushed_notMem_pulses r)
  | connect e =>
    have hmem := Pulse.mem_of_mem_unsettled h
    rw [pulses] at hmem
    split at hmem
    · cases hmem
    · simp at hmem
  | cleanup | close | steer actions | abandonPending => cases h

/-- **Only sending ahead that has not finished leaves bytes that nobody keeps a flush due for.** -/
theorem unfinished_of_pushed {t : Transport σ} {acts : List (Act Streaming)} {n : Nat}
    (h : Pulse.pushed n ∈ Pulse.unsettled (t.streamed acts)) :
    ∃ before p script after, acts = before ++ .sendAhead p script :: after ∧
      ((t.run before).ahead Streaming p script).2.2 ≠ .finished := by
  induction acts using List.reverseRecOn with
  | nil => cases h
  | append_singleton acts act ih =>
    rw [streamed_concat] at h
    -- it was unsettled before the last act, or it is what the last act leaves
    rcases Pulse.mem_unsettled_append _ _ h with h | h
    · obtain ⟨before, p, script, after, rfl, hended⟩ := ih h
      refine ⟨before, p, script, after ++ [act], ?_, hended⟩
      rw [List.append_assoc]
      rfl
    · obtain ⟨p, script, rfl, hended⟩ := unfinished_of_pushed_act h
      exact ⟨acts, p, script, [], rfl, hended⟩

omit [Client σ] in
/-- A wait with nothing to write offers a flush exactly if one is due. -/
theorem send_eq_flush_iff {t u : Transport σ} {room : Nat} {send : Send}
    (harm : t.arm = (u, some (.traffic room send))) (hunsent : u.link.hasUnsent = false) :
    send = .flush ↔ t.unflushed = true := by
  unfold arm at harm
  split at harm
  case h_1 | h_2 => simp at harm
  case h_3 =>
    simp only [Prod.mk.injEq, Option.some.injEq, Wait.traffic.injEq] at harm
    obtain ⟨rfl, -, rfl⟩ := harm
    rw [Transport.send, hunsent]
    cases t.unflushed <;> simp

/-- **A flush is due exactly if a cycle wrote something unsettled.**
    In every state that acts lead to: a flush is due exactly if a cycle wrote bytes since the last
    flush that was over on the stream.  Bytes that were pushed into the stream ahead of the queue do
    not count, and what they leave unsettled is left by sending that has failed, has taken too long,
    or is not over.  A wait that has nothing to write flushes exactly if a flush is due. -/
theorem flush_due_iff (settings : Settings) (client : σ) (acts : List (Act Streaming)) :
    (((new settings client).run acts).unflushed = true ↔
      ∃ n, Pulse.wrote n ∈ Pulse.unsettled ((new settings client).streamed acts)) ∧
    (∀ n, Pulse.pushed n ∈ Pulse.unsettled ((new settings client).streamed acts) →
      ∃ before p script after, acts = before ++ .sendAhead p script :: after ∧
        (((new settings client).run before).ahead Streaming p script).2.2 ≠ .finished) ∧
    ∀ u room send, ((new settings client).run acts).arm = (u, some (.traffic room send)) →
      u.link.hasUnsent = false →
      (send = .flush ↔
        ∃ n, Pulse.wrote n ∈ Pulse.unsettled ((new settings client).streamed acts)) := by
  have hdue : ((new settings client).run acts).unflushed = true ↔
      ∃ n, Pulse.wrote n ∈ Pulse.unsettled ((new settings client).streamed acts) := by
    rw [unflushed_run]
    exact Pulse.foldl_due _
  refine ⟨hdue, fun n => unfinished_of_pushed, ?_⟩
  intro u room send harm hunsent
  exact (send_eq_flush_iff harm hunsent).trans hdue

/-- A connection is up, and nothing is left to write or to flush. -/
def greeted : List (Act Streaming) :=
  [.connect ⟨.v4 0, 0⟩,
    .cycle 0 [just (.opened none), just (.traffic (.wrote 49)), just (.traffic .flushed)],
    .cycle 0 [just (.traffic (.received SessionKeeper.greeting))]]

/-- A packet is written in full, and the time is over before the flush is. -/
def hurried : Act Streaming :=
  .sendAhead { kind := .ping, xid := -2, body := [7] } [⟨[], 0, .wrote 5⟩, ⟨[], 0, .elapsed⟩]

/-- **A flush can be forgotten**: the bytes of a packet have been pushed into the stream and are not
flushed, the stream is kept, and the next wait has nothing to do but to read. -/
theorem flush_forgotten :
    ((new {} SessionKeeper.anew).run (greeted ++ [hurried])).live = true ∧
      Pulse.unsettled ((new {} SessionKeeper.anew).streamed (greeted ++ [hurried])) =
        [.pushed 5] ∧
      ((new {} SessionKeeper.anew).run (greeted ++ [hurried])).unflushed = false ∧
      ((new {} SessionKeeper.anew).run (greeted ++ [hurried])).link.hasUnsent = false ∧
      ((new {} SessionKeeper.anew).run (greeted ++ [hurried])).arm.2 =
        some (.traffic 16384 .nothing) := by
  refine ⟨?_, ?_, ?_, ?_, ?_⟩ <;> decide +kernel

end Transport

end Reconnect
