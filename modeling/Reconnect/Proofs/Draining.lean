import Reconnect.Proofs.Lockstep

/-!
# How much one cycle takes from the queue

The drain limit bounds the outbound buffer: packets leave the queue until the buffer holds so many.
What one cycle takes from the queue is bounded by it only as long as the cycle does not fill the
buffer anew.

## Protocol

* The vacancy of a link is what the buffer still takes.  It pays for the packets that leave the
  queue, and a write that leaves nothing unwritten gives the whole limit back.
* `Affords` says that operations are paid for and that the vacancy behind them is, too, `Spends`
  that the operations are paid for.

## Results

* `Transport.spends_rounds`: what the waits of a cycle spend, if it is known what a single report
  spends.
* `Transport.drained_cycle_le`: **with streams that report readiness no cycle takes more packets
  from the queue than the drain limit; with streams that complete reads and writes it may do so once
  more for every write that left nothing.**
* `Transport.drained_past_limit`: such a cycle takes more than the limit.
-/

namespace Reconnect

namespace Move

/-- A packet leaves the queue. -/
def drains : Move → Bool
  | framed _ => true
  | _ => false

/-- How many packets leave the queue. -/
def drained (h : List Move) : Nat := h.countP drains

theorem drained_append (h k : List Move) : drained (h ++ k) = drained h + drained k :=
  List.countP_append

theorem drained_eq_zero {h : List Move} (hd : ∀ m ∈ h, m.drains = false) : drained h = 0 := by
  refine List.countP_eq_zero.mpr fun m hm => ?_
  rw [hd m hm]
  decide

end Move

namespace Queue

/-- No more packets are taken out than are asked for. -/
theorem length_popMany_le (permitted : Kind → Bool) (n : Nat) (q : Queue) :
    (popMany permitted n q).1.length ≤ n := by
  induction n generalizing q with
  | zero => exact Nat.le_refl 0
  | succ n ih =>
    unfold popMany
    split
    · exact Nat.zero_le _
    · exact Nat.succ_le_succ (ih _)

end Queue

theorem Outbound.size_foldl_push (o : Outbound) (ps : List Packet) :
    (ps.foldl Outbound.push o).size = o.size + ps.length := by
  have hsize (o : Outbound) : o.size = o.packets.length := (List.length_map _).symm
  rw [hsize, Link.packets_foldl_push, List.length_append, ← hsize]

namespace Link

variable {σ : Type}

open Move

/-- How many packets the outbound buffer still takes from the queue. -/
def vacancy (l : Link σ) : Nat := l.settings.drainLimit - l.outbound.size

/-- A write that leaves nothing unwritten. -/
def Turn.empties [Client σ] (t : Turn σ) : Bool :=
  match t.op with
  | .wrote _ => !(t.link.step t.op).1.hasUnsent
  | _ => false

/-! ## One operation -/

theorem settings_step [Client σ] (l : Link σ) (op : Op) : (l.step op).1.settings = l.settings := by
  cases op with
  | process => exact l.sameSending_process.settings
  | connect e =>
    simp only [step, connect]
    split <;> rfl
  | _ => rfl

theorem settings_run [Client σ] (l : Link σ) (ops : List Op) :
    (l.run ops).settings = l.settings := by
  induction ops generalizing l with
  | nil => rfl
  | cons op ops ih => rw [run_cons, ih, settings_step]

/-- Packets leave the queue to fill the outbound buffer, and for nothing else. -/
theorem drained_moves [Client σ] (l : Link σ) {op : Op} (h : op ≠ .fill) :
    drained (l.moves op) = 0 := by
  by_cases hs : op.sparesOutbound = true
  · refine drained_eq_zero fun m hm => ?_
    have hnone := (l.moves_sparesOutbound hs m hm).1
    cases m with
    | framed p => cases hnone
    | _ => rfl
  · cases op with
    | fill => exact absurd rfl h
    | pushAhead p | reset | close => rfl
    | connect e =>
      simp only [moves]
      split <;> rfl
    | wrote n =>
      refine drained_eq_zero fun m hm => ?_
      obtain ⟨p, -, rfl⟩ := List.mem_map.mp hm
      rfl
    | _ => exact absurd rfl hs

theorem drained_fill [Client σ] (l : Link σ) : drained (l.moves .fill) =
    (Queue.popMany l.passes l.vacancy l.control.queue).1.length := by
  rw [moves, drained, List.countP_map]
  exact List.countP_eq_length.mpr fun p _ => rfl

/-! ## What operations cost -/

section Cost

variable [Client σ] (refills : Turn σ → Bool)

/-- The packets that leave the queue and the vacancy that is left are paid for by the vacancy before
and by refills. -/
def Affords (l : Link σ) (ops : List Op) : Prop :=
  drained (l.course ops) + (l.run ops).vacancy ≤
    l.vacancy + l.settings.drainLimit * (l.turns ops).countP refills

/-- The packets that leave the queue are paid for by the vacancy before and by refills. -/
def Spends (l : Link σ) (ops : List Op) : Prop :=
  drained (l.course ops) ≤ l.vacancy + l.settings.drainLimit * (l.turns ops).countP refills

variable {refills} {l : Link σ} {ops more : List Op}

theorem Affords.spends (h : Affords refills l ops) : Spends refills l ops :=
  Nat.le_trans (Nat.le_add_right _ _) h

theorem affords_nil : Affords refills l [] := by
  show drained [] + l.vacancy ≤ _
  rw [drained_eq_zero (by simp)]
  omega

theorem Affords.append (h : Affords refills l ops) (hmore : Affords refills (l.run ops) more) :
    Affords refills l (ops ++ more) := by
  unfold Affords at *
  rw [settings_run] at hmore
  rw [course_append, drained_append, run_append, turns_append, List.countP_append, Nat.mul_add]
  omega

theorem Affords.append_spends (h : Affords refills l ops)
    (hmore : Spends refills (l.run ops) more) : Spends refills l (ops ++ more) := by
  unfold Affords Spends at *
  rw [settings_run] at hmore
  rw [course_append, drained_append, turns_append, List.countP_append, Nat.mul_add]
  omega

theorem drained_course_eq_zero (l : Link σ) (h : ∀ op ∈ ops, op ≠ .fill) :
    drained (l.course ops) = 0 := by
  refine drained_eq_zero (mem_course fun l op hop m hm => ?_)
  have hnone := l.drained_moves (h op hop)
  rw [drained, List.countP_eq_zero] at hnone
  simpa using hnone m hm

/-- What takes nothing from the queue spends nothing. -/
theorem spends_of_ne_fill (h : ∀ op ∈ ops, op ≠ .fill) : Spends refills l ops := by
  rw [Spends, drained_course_eq_zero l h]
  omega

theorem Spends.append_of_ne_fill (h : Spends refills l ops) (hmore : ∀ op ∈ more, op ≠ .fill) :
    Spends refills l (ops ++ more) := by
  unfold Spends at *
  rw [course_append, drained_append, drained_course_eq_zero _ hmore, turns_append,
    List.countP_append, Nat.mul_add]
  omega

theorem affords_fill (l : Link σ) : Affords refills l [.fill] := by
  have hcourse : l.course [.fill] = l.moves .fill := by
    rw [course_cons, course_nil, List.append_nil]
  have hvacancy : (l.run [.fill]).vacancy = l.vacancy - drained (l.moves .fill) := by
    rw [drained_fill]
    show l.settings.drainLimit - (Outbound.size (List.foldl _ _ _)) = _
    rw [Outbound.size_foldl_push]
    exact Nat.sub_add_eq _ _ _
  have hle : drained (l.moves .fill) ≤ l.vacancy := by
    rw [drained_fill]
    exact Queue.length_popMany_le _ _ _
  rw [Affords, hcourse, hvacancy]
  omega

theorem affords_of_sparesOutbound (l : Link σ) {op : Op} (h : op.sparesOutbound = true) :
    Affords refills l [op] := by
  have hvacancy : (l.run [op]).vacancy = l.vacancy := by
    show (l.step op).1.settings.drainLimit - (l.step op).1.outbound.size = _
    rw [settings_step, l.outbound_step h]
    rfl
  have hdrained : drained (l.course [op]) = 0 := by
    rw [course_cons, course_nil, List.append_nil]
    refine drained_moves l ?_
    rintro rfl
    cases h
  rw [Affords, hdrained, hvacancy]
  omega

/-- Idle work costs what it fills the outbound buffer with. -/
theorem affords_of_idle (h : ∀ op ∈ ops, op = .fill ∨ op.sparesOutbound = true) :
    Affords refills l ops := by
  induction ops generalizing l with
  | nil => exact affords_nil
  | cons op ops ih =>
    have hfirst : Affords refills l [op] := by
      rcases h op List.mem_cons_self with rfl | hop
      · exact affords_fill l
      · exact affords_of_sparesOutbound l hop
    exact hfirst.append (ih fun op hop => h op (List.mem_cons_of_mem _ hop))

/-- A write that leaves nothing gives the limit back. -/
theorem affords_of_empties {n : Nat} (h : (l.wrote n).hasUnsent = false) :
    Affords Turn.empties l [.wrote n] := by
  have hempties : (l.turns [.wrote n]).countP Turn.empties = 1 := by
    simp [turns, Turn.empties, step, h]
  have hdrained : drained (l.course [.wrote n]) = 0 := by
    rw [course_cons, course_nil, List.append_nil]
    exact drained_moves l (by simp)
  have hvacancy : (l.run [.wrote n]).vacancy ≤ l.settings.drainLimit := by
    have hsettings := l.settings_run [.wrote n]
    rw [vacancy, hsettings]
    exact Nat.sub_le _ _
  rw [Affords, hempties, hdrained]
  omega

theorem Op.fill_or_spares_of_idle {op : Op} (h : op.idle = true) :
    op = .fill ∨ op.sparesOutbound = true := by
  cases op <;> first | exact .inl rfl | exact .inr rfl | cases h

end Cost

end Link

namespace Transport

variable {σ α ω : Type}

open Link Move

section Rounds

variable [Client σ] [Carrying α] {refills : Link.Turn σ → Bool}

theorem spends_closeDeeds (t : Transport σ) : Spends refills t.link t.closeDeeds := by
  refine spends_of_ne_fill fun op hop => ?_
  unfold closeDeeds at hop
  split at hop
  · cases hop
  · obtain rfl := List.mem_singleton.mp hop
    simp

theorem affords_armDeeds (t : Transport σ) : Affords refills t.link t.armDeeds :=
  affords_of_idle fun op hop => Op.fill_or_spares_of_idle (t.idle_armDeeds op hop)

/-- What a moment costs, if it is known what the report of a stream costs. -/
theorem takeDeeds_cost {Q : Link σ → List Op → Prop} (t : Transport σ) (m : Moment (Signal α))
    (prepend : ∀ {l : Link σ} {ops more : List Op}, Affords refills l ops →
      Q (l.run ops) more → Q l (ops ++ more))
    (idle : ∀ {l : Link σ} {ops : List Op}, Affords refills l ops → Q l ops)
    (report : ∀ r, m.signal = .traffic r → (t.meanwhile m.actions m.now).carrier = .live →
      Q (t.meanwhile m.actions m.now).link (Carrying.deeds (t.meanwhile m.actions m.now) r)) :
    Q t.link (t.takeDeeds m) := by
  have hmeanwhile : Affords refills t.link [.steer m.actions, .tick m.now] := by
    refine affords_of_idle fun op hop => .inr ?_
    simp only [List.mem_cons, List.not_mem_nil, or_false] at hop
    rcases hop with rfl | rfl <;> rfl
  rw [takeDeeds_eq]
  refine prepend hmeanwhile ?_
  change Q (t.meanwhile m.actions m.now).link _
  rcases (t.meanwhile m.actions m.now).idle_or_report m.now m.signal with
    hidle | ⟨r, hsignal, hlive, hdeeds⟩
  · exact idle (affords_of_idle fun op hop => Op.fill_or_spares_of_idle (hidle op hop))
  · rw [hdeeds]
    exact report r hsignal hlive

/-- What the waits of a cycle spend, if it is known what a single report spends, and that all of one
is paid for that the cycle goes on after. -/
theorem spends_rounds
    (hreport : ∀ (t : Transport σ) (report : α), Spends refills t.link (Carrying.deeds t report))
    (hagain : ∀ (t : Transport σ) (report : α), (Backend.carry t report).2 = .again →
      Affords refills t.link (Carrying.deeds t report))
    (await : ω → Wait → Bool → Option (Moment (Signal α) × ω)) (fuel : Nat) (t : Transport σ)
    (around : ω) : Spends refills t.link (roundsDeeds await fuel t around) := by
  have htake (t : Transport σ) (m : Moment (Signal α)) : Spends refills t.link (t.takeDeeds m) :=
    t.takeDeeds_cost m Affords.append_spends Affords.spends fun r _ _ => hreport _ r
  have hgoesOn (t : Transport σ) (m : Moment (Signal α)) (h : (t.take m).2 = .again) :
      Affords refills t.link (t.takeDeeds m) := by
    refine t.takeDeeds_cost m Affords.append id fun r hsignal hlive => hagain _ r ?_
    rw [take, hsignal] at h
    simpa only [if_pos hlive] using h
  induction fuel generalizing t around with
  | zero => exact affords_nil.spends
  | succ fuel ih =>
    rw [roundsDeeds]
    split
    · exact t.spends_closeDeeds
    · refine t.affords_armDeeds.append_spends ?_
      rw [← link_arm]
      obtain ⟨armed, offer⟩ := t.arm
      cases offer with
      | none => exact affords_nil.spends
      | some wait =>
        simp only
        cases await around wait armed.link.control.woken with
        | none => exact affords_nil.spends
        | some found =>
          obtain ⟨m, around⟩ := found
          simp only
          cases hm : armed.take m with
          | mk taken next =>
            cases next with
            | again =>
              refine (hgoesOn armed m (by rw [hm])).append_spends ?_
              have hlink := armed.link_take m
              rw [hm] at hlink
              rw [← hlink]
              exact ih taken around
            | finish => exact (htake armed m).append_of_ne_fill (by simp)
            | fail fault =>
              rw [List.append_nil]
              exact htake armed m

theorem spends_cycleDeeds
    (hreport : ∀ (t : Transport σ) (report : α), Spends refills t.link (Carrying.deeds t report))
    (hagain : ∀ (t : Transport σ) (report : α), (Backend.carry t report).2 = .again →
      Affords refills t.link (Carrying.deeds t report))
    (await : ω → Wait → Bool → Option (Moment (Signal α) × ω)) (fuel : Nat) (t : Transport σ)
    (now : Nanos) (around : ω) : Spends refills t.link (cycleDeeds await fuel t now around) := by
  unfold cycleDeeds
  split
  · exact affords_nil.spends
  · have hbegin : Affords refills t.link [.tick now, .handOver] := by
      refine affords_of_idle fun op hop => .inr ?_
      simp only [List.mem_cons, List.not_mem_nil, or_false] at hop
      rcases hop with rfl | rfl <;> rfl
    exact hbegin.append_spends (spends_rounds hreport hagain await fuel
      { t with link := (t.link.tick now).handOver } around)

end Rounds

end Transport

/-! ## Backends -/

/-- Reading takes nothing from the queue. -/
theorem affords_receiveDeeds {σ : Type} [Client σ] {refills : Link.Turn σ → Bool} (l : Link σ)
    (data : Bytes) : Link.Affords refills l (receiveDeeds data) := by
  refine Link.affords_of_idle fun op hop => .inr ?_
  rcases eq_or_of_mem_receiveDeeds hop with rfl | rfl <;> rfl

namespace Streaming

variable {σ : Type} [Client σ]

theorem spends_deeds (t : Transport σ) (report : Streaming) :
    Link.Spends Link.Turn.empties t.link (Carrying.deeds t report) := by
  change Link.Spends _ t.link (deeds report)
  cases report with
  | received data => exact (affords_receiveDeeds t.link data).spends
  | wrote n =>
    refine Link.spends_of_ne_fill fun op hop => ?_
    simp only [deeds] at hop
    split at hop
    · cases hop
    · obtain rfl := List.mem_singleton.mp hop
      simp
  | flushed | failed fault => exact Link.affords_nil.spends

/-- A cycle goes on only after a write that left nothing. -/
theorem affords_deeds (t : Transport σ) (report : Streaming)
    (h : (Backend.carry t report).2 = .again) :
    Link.Affords Link.Turn.empties t.link (Carrying.deeds t report) := by
  change (carry t report).2 = .again at h
  change Link.Affords _ t.link (deeds report)
  cases report with
  | received data => exact affords_receiveDeeds t.link data
  | wrote n =>
    simp only [carry, write, deeds] at h ⊢
    split at h
    · cases h
    · rename_i hn
      rw [if_neg hn]
      refine Link.affords_of_empties ?_
      cases hleft : (t.link.wrote n).hasUnsent with
      | false => rfl
      | true =>
        rw [hleft] at h
        cases h
  | flushed | failed fault => exact Link.affords_nil

end Streaming

namespace Polling

variable {σ : Type} [Client σ]

/-- What readiness comes to fills the outbound buffer before it writes. -/
theorem spends_deeds (t : Transport σ) (report : Polling) :
    Link.Spends (fun _ => false) t.link (Carrying.deeds t report) := by
  change Link.Spends _ t.link (deeds t report)
  cases report with
  | failed fault => exact Link.affords_nil.spends
  | ready reads writes =>
    have hread : Link.Affords (fun _ => false) t.link (reads.elim [] readDeeds) := by
      match reads with
      | some (.done data) => exact affords_receiveDeeds t.link data
      | none | some .blocked | some (.failed fault) => exact Link.affords_nil
    unfold deeds
    refine hread.append_spends ?_
    split
    · exact Link.affords_nil.spends
    · exact Link.affords_nil.spends
    · refine (Link.affords_fill _).append_spends (Link.spends_of_ne_fill fun op hop => ?_)
      obtain ⟨n, rfl⟩ := wrote_of_mem_writeDeeds hop
      simp

end Polling

namespace Transport

variable {σ : Type}

open Link Move

/-- **What one cycle takes from the queue.**
    With a stream that reports readiness a cycle takes at most as many packets from the queue as the
    drain limit says, whatever happens in it.  With a stream that completes reads and writes it does
    so as long as no write leaves nothing unwritten; after each of these the cycle goes on, and
    takes up to the limit once more. -/
theorem drained_cycle_le [Client σ] :
    (∀ (t : Transport σ) (now : Nanos) (script : List (Moment (Signal Polling))),
      drained (t.moves (.cycle now script)) ≤ t.link.settings.drainLimit) ∧
    ∀ (t : Transport σ) (now : Nanos) (script : List (Moment (Signal Streaming))),
      drained (t.moves (.cycle now script)) ≤ t.link.settings.drainLimit *
        (1 + (t.link.turns (t.deeds (.cycle now script))).countP Link.Turn.empties) := by
  have hvacancy (l : Link σ) : l.vacancy ≤ l.settings.drainLimit := Nat.sub_le _ _
  constructor
  · intro t now script
    have hspends : Spends (fun _ => false) t.link (t.deeds (.cycle now script)) :=
      spends_cycleDeeds Polling.spends_deeds
        (fun t report hagain => absurd hagain (Polling.carry_ne_again t report)) _ _ _ _ _
    have hnone : (t.link.turns (t.deeds (.cycle now script))).countP (fun _ => false) = 0 :=
      List.countP_eq_zero.mpr fun _ _ => by decide
    rw [Spends, hnone, Nat.mul_zero, Nat.add_zero] at hspends
    exact hspends.trans (hvacancy t.link)
  · intro t now script
    have hspends : Spends Link.Turn.empties t.link (t.deeds (.cycle now script)) :=
      spends_cycleDeeds Streaming.spends_deeds Streaming.affords_deeds _ _ _ _ _
    rw [Nat.mul_add, Nat.mul_one]
    exact hspends.trans (Nat.add_le_add_right (hvacancy t.link) _)

/-- The handshake is over on a connection with a drain limit of one, and three questions are
queued. -/
def crowded : List (Act Streaming) :=
  hasty ++ [.steer [.submit question, .submit question]]

/-- Every write takes all there is, and the flush is done at last. -/
def flowing : List (Moment (Signal Streaming)) :=
  [just .woken, just (.traffic (.wrote 4)), just (.traffic (.wrote 4)), just (.traffic (.wrote 4)),
    just (.traffic .flushed)]

/-- **A cycle can take more packets from the queue than the drain limit says.** -/
theorem drained_past_limit :
    (Settings.ofChanges [.drainLimit 1]).drainLimit = 1 ∧
      drained (((new (Settings.ofChanges [.drainLimit 1]) SessionKeeper.anew).run crowded).moves
        (.cycle 0 flowing)) = 3 := by
  constructor <;> decide +kernel

end Transport

end Reconnect
