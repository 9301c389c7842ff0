import Reconnect.Proofs.Draining

/-!
# What is taken from the queue

Packets leave the queue one by one: each time the first that may be sent is looked for and taken
out.  All of them together are a front part of the packets that may be sent, and the others do not
notice.

## Protocol

* The gate is read once, before the first packet is taken.
* A selection of at most `n` packets works the queue off from the front up to some border.  In front
  of the border everything that may be sent is taken, and behind it nothing.
* What bounds a selection is the room in the outbound buffer, not the number of packets taken.

## Results

* `Queue.Selects.unique`: there is one selection of `n` packets.
* `Queue.popMany_eq_iff`: taking packets one by one makes that selection.
* `Link.fill_eq_self_iff`: nothing is taken exactly if nothing may be sent or there is no room.
* `Link.fills_selection`: **filling the outbound buffer moves the first packets that may be sent, as
  many as there is room for, and leaves all else in its place**.
-/

namespace Reconnect

namespace Queue

variable {permitted : Kind → Bool} {n : Nat} {p : Packet} {q taken rest : Queue}

/-- The packets that may be sent. -/
def sendable (permitted : Kind → Bool) (q : Queue) : Queue := q.filter fun p => permitted p.kind

/-- The packets that may not be sent. -/
def blocked (permitted : Kind → Bool) (q : Queue) : Queue := q.filter fun p => !permitted p.kind

theorem sendable_append (q more : Queue) :
    sendable permitted (q ++ more) = sendable permitted q ++ sendable permitted more :=
  List.filter_append ..

theorem blocked_append (q more : Queue) :
    blocked permitted (q ++ more) = blocked permitted q ++ blocked permitted more :=
  List.filter_append ..

theorem sendable_cons_of_permitted (hp : permitted p.kind = true) :
    sendable permitted (p :: q) = p :: sendable permitted q := by simp [sendable, hp]

theorem sendable_cons_of_blocked (hp : permitted p.kind = false) :
    sendable permitted (p :: q) = sendable permitted q := by simp [sendable, hp]

theorem blocked_cons_of_permitted (hp : permitted p.kind = true) :
    blocked permitted (p :: q) = blocked permitted q := by simp [blocked, hp]

theorem blocked_cons_of_blocked (hp : permitted p.kind = false) :
    blocked permitted (p :: q) = p :: blocked permitted q := by simp [blocked, hp]

@[simp] theorem sendable_blocked (q : Queue) : sendable permitted (blocked permitted q) = [] := by
  simp [sendable, blocked, List.filter_filter]

@[simp] theorem blocked_blocked (q : Queue) :
    blocked permitted (blocked permitted q) = blocked permitted q := by
  simp [blocked, List.filter_filter]

theorem sendable_eq_nil_iff : sendable permitted q = [] ↔ ∀ p ∈ q, permitted p.kind = false := by
  simp [sendable]

theorem blocked_eq_self_iff : blocked permitted q = q ↔ ∀ p ∈ q, permitted p.kind = false := by
  simp [blocked]

/-! ## Selections -/

/-- At most `n` packets of the queue are taken, and the rest stays. -/
structure Selects (permitted : Kind → Bool) (n : Nat) (q taken rest : Queue) : Prop where
  /-- The first packets that may be sent are taken. -/
  first : taken = (sendable permitted q).take n
  /-- Up to some border everything that may be sent is taken, and nothing else is. -/
  border : ∃ front back, q = front ++ back ∧ taken = sendable permitted front ∧
    rest = blocked permitted front ++ back

namespace Selects

theorem length_taken (s : Selects permitted n q taken rest) :
    taken.length = min n (q.countP fun p => permitted p.kind) := by
  rw [s.first, List.length_take, sendable, List.countP_eq_length_filter]

/-- What may not be sent is neither dropped nor reordered. -/
theorem blocked_rest (s : Selects permitted n q taken rest) :
    blocked permitted rest = blocked permitted q := by
  obtain ⟨front, back, rfl, -, rfl⟩ := s.border
  rw [blocked_append, blocked_append, blocked_blocked]

/-- What may be sent is either taken or stays behind. -/
theorem taken_append_sendable (s : Selects permitted n q taken rest) :
    taken ++ sendable permitted rest = sendable permitted q := by
  obtain ⟨front, back, rfl, rfl, rfl⟩ := s.border
  rw [sendable_append, sendable_append, sendable_blocked, List.nil_append]

theorem rest_sublist (s : Selects permitted n q taken rest) : rest.Sublist q := by
  obtain ⟨front, back, rfl, -, rfl⟩ := s.border
  exact List.filter_sublist.append (List.Sublist.refl back)

/-- A selection that is not full takes everything that may be sent. -/
theorem sated (s : Selects permitted n q taken rest) :
    (∀ p ∈ rest, permitted p.kind = false) ∨ taken.length = n := by
  by_cases hlen : taken.length = n
  · exact .inr hlen
  · have hshort : (sendable permitted q).length ≤ n := by
      have := congrArg List.length s.first
      rw [List.length_take] at this
      omega
    have hall : taken = sendable permitted q := by rw [s.first, List.take_of_length_le hshort]
    have hnone := s.taken_append_sendable
    rw [← hall, List.append_right_eq_self, sendable_eq_nil_iff] at hnone
    exact .inl hnone

/-- A border can only be moved over packets that may not be sent. -/
theorem rest_eq_of_border {front middle back : Queue}
    (h : sendable permitted (front ++ middle) = sendable permitted front) :
    blocked permitted (front ++ middle) ++ back = blocked permitted front ++ (middle ++ back) := by
  rw [sendable_append, List.append_right_eq_self, sendable_eq_nil_iff] at h
  rw [blocked_append, blocked_eq_self_iff.mpr h, List.append_assoc]

/-- There is one selection of so many packets. -/
theorem unique {taken' rest' : Queue} (s : Selects permitted n q taken rest)
    (s' : Selects permitted n q taken' rest') : taken = taken' ∧ rest = rest' := by
  have hsame : taken = taken' := s.first.trans s'.first.symm
  obtain ⟨front, back, hq, htaken, rfl⟩ := s.border
  obtain ⟨front', back', hq', htaken', rfl⟩ := s'.border
  have hfronts : sendable permitted front = sendable permitted front' := by
    rw [← htaken, ← htaken', hsame]
  refine ⟨hsame, ?_⟩
  rcases List.append_eq_append_iff.mp (hq.symm.trans hq') with
    ⟨middle, rfl, rfl⟩ | ⟨middle, rfl, rfl⟩
  · exact (rest_eq_of_border hfronts.symm).symm
  · exact rest_eq_of_border hfronts

theorem zero : Selects permitted 0 q [] q := ⟨List.take_zero.symm, [], q, rfl, rfl, rfl⟩

theorem nil : Selects permitted n [] [] [] := ⟨List.take_nil.symm, [], [], rfl, rfl, rfl⟩

theorem take (hp : permitted p.kind = true) (s : Selects permitted n q taken rest) :
    Selects permitted (n + 1) (p :: q) (p :: taken) rest := by
  have hfirst := s.first
  obtain ⟨front, back, rfl, htaken, rfl⟩ := s.border
  refine ⟨?_, p :: front, back, rfl, ?_, ?_⟩
  · rw [sendable_cons_of_permitted hp, List.take_succ_cons, ← hfirst]
  · rw [sendable_cons_of_permitted hp, htaken]
  · rw [blocked_cons_of_permitted hp]

theorem skip (hp : permitted p.kind = false) (s : Selects permitted n q taken rest) :
    Selects permitted n (p :: q) taken (p :: rest) := by
  have hfirst := s.first
  obtain ⟨front, back, rfl, htaken, rfl⟩ := s.border
  refine ⟨?_, p :: front, back, rfl, ?_, ?_⟩
  · rw [sendable_cons_of_blocked hp, ← hfirst]
  · rw [sendable_cons_of_blocked hp, htaken]
  · rw [blocked_cons_of_blocked hp, List.cons_append]

/-- There are no more packets to take than may be sent. -/
theorem capped (s : Selects permitted n q taken rest) :
    Selects permitted (min n (q.countP fun p => permitted p.kind)) q taken rest := by
  refine ⟨?_, s.border⟩
  rw [s.first, List.take_eq_take_min, sendable, List.countP_eq_length_filter]

end Selects

/-! ## Taking packets one by one -/

theorem popMany_nil : popMany permitted n [] = ([], []) := by
  cases n with
  | zero | succ n => rfl

theorem popMany_cons_of_permitted (hp : permitted p.kind = true) :
    popMany permitted (n + 1) (p :: q) =
      (p :: (popMany permitted n q).1, (popMany permitted n q).2) := by
  have hpop : pop permitted (p :: q) = some (p, q) := by rw [pop, if_pos hp]
  rw [popMany, hpop]

theorem popMany_cons_of_blocked (hp : permitted p.kind = false) :
    popMany permitted n (p :: q) =
      ((popMany permitted n q).1, p :: (popMany permitted n q).2) := by
  induction n generalizing q with
  | zero => rfl
  | succ n ih =>
    have hpop : pop permitted (p :: q) = (pop permitted q).map (Prod.map id (p :: ·)) := by
      rw [pop, if_neg (by rw [hp]; decide)]
      rfl
    cases hq : pop permitted q with
    | none => rw [popMany, popMany, hpop, hq, Option.map_none]
    | some found =>
      simp only [popMany, hpop, hq, Option.map_some, Prod.map_fst, Prod.map_snd, id_eq]
      rw [ih]

theorem popMany_selects (permitted : Kind → Bool) (n : Nat) (q : Queue) :
    Selects permitted n q (popMany permitted n q).1 (popMany permitted n q).2 := by
  -- packets are taken by number, but the border moves along the queue
  induction q generalizing n with
  | nil =>
    rw [popMany_nil]
    exact .nil
  | cons p q ih =>
    cases hp : permitted p.kind with
    | false =>
      rw [popMany_cons_of_blocked hp]
      exact (ih n).skip hp
    | true =>
      cases n with
      | zero => exact .zero
      | succ n =>
        rw [popMany_cons_of_permitted hp]
        exact (ih n).take hp

/-- Taking the first packet that may be sent, again and again, makes the selection. -/
theorem popMany_eq_iff :
    popMany permitted n q = (taken, rest) ↔ Selects permitted n q taken rest := by
  constructor
  · intro h
    have s := popMany_selects permitted n q
    rwa [h] at s
  · intro s
    obtain ⟨htaken, hrest⟩ := (popMany_selects permitted n q).unique s
    exact Prod.ext htaken hrest

end Queue

/-! ## Filling the outbound buffer -/

/-- A packet of which nothing is written. -/
def Unwritten.whole (p : Packet) : Unwritten := ⟨p, (Frame.encode p.body).length⟩

theorem Outbound.foldl_push (o : Outbound) (ps : List Packet) :
    ps.foldl push o =
      { bytes := o.bytes ++ wire ps, frames := o.frames ++ ps.map Unwritten.whole } := by
  induction ps generalizing o with
  | nil => simp [wire]
  | cons p ps ih =>
    rw [List.foldl_cons, ih]
    simp [push, wire_cons, Unwritten.whole, Frame.length_encode]

namespace Link

variable {σ : Type}

/-- Nothing that waits may be sent, or there is no room for it. -/
def Sated (l : Link σ) : Prop :=
  (∀ p ∈ l.control.queue, l.passes p.kind = false) ∨ l.settings.drainLimit ≤ l.outbound.size

theorem fill_of_sated {l : Link σ} (h : l.Sated) : l.fill = l := by
  have hnone : Queue.popMany l.passes l.vacancy l.control.queue = ([], l.control.queue) := by
    rcases h with hblocked | hfull
    · refine Queue.popMany_eq_iff.mpr ⟨?_, [], l.control.queue, rfl, rfl, rfl⟩
      rw [Queue.sendable_eq_nil_iff.mpr hblocked, List.take_nil]
    · rw [vacancy, Nat.sub_eq_zero_of_le hfull]
      rfl
  unfold vacancy at hnone
  rw [fill, hnone]
  rfl

theorem fill_selects (l : Link σ) :
    ∃ taken rest, Queue.Selects l.passes l.vacancy l.control.queue taken rest ∧
      l.fill = { l with
        control := { l.control with queue := rest }
        outbound := {
          bytes := l.outbound.bytes ++ wire taken
          frames := l.outbound.frames ++ taken.map Unwritten.whole } } := by
  refine ⟨_, _, Queue.popMany_selects l.passes l.vacancy l.control.queue, ?_⟩
  rw [← Outbound.foldl_push]
  rfl

theorem sated_fill (l : Link σ) : l.fill.Sated := by
  obtain ⟨taken, rest, s, hfill⟩ := l.fill_selects
  rw [hfill]
  rcases s.sated with hblocked | hlen
  · exact .inl hblocked
  · refine .inr ?_
    show l.settings.drainLimit ≤ (l.outbound.frames ++ taken.map Unwritten.whole).length
    rw [List.length_append, List.length_map, hlen, vacancy, Outbound.size]
    omega

/-- Nothing is taken exactly if nothing may be sent or there is no room. -/
theorem fill_eq_self_iff {l : Link σ} : l.fill = l ↔ l.Sated :=
  ⟨fun h => h ▸ l.sated_fill, fill_of_sated⟩

/-- **Filling the outbound buffer is a selection in the order of the queue.**  Of the packets that
may be sent as many are taken as there are and as there is room for, from the first on.  The queue
keeps all others in their order, those that may not be sent and those there was no room for.  What
is taken stands framed behind what is framed already, whole and in its order, and nothing else of
the link changes.  Afterwards nothing that waits may be sent, or the
buffer holds as many packets as the limit allows; filling it again changes nothing. -/
theorem fills_selection (l : Link σ) :
    ∃ taken rest,
      Queue.Selects l.passes
        (min (l.settings.drainLimit - l.outbound.size)
          (l.control.queue.countP fun p => l.passes p.kind))
        l.control.queue taken rest ∧
      taken.length =
        min (l.settings.drainLimit - l.outbound.size)
          (l.control.queue.countP fun p => l.passes p.kind) ∧
      rest.Sublist l.control.queue ∧
      taken ++ Queue.sendable l.passes rest = Queue.sendable l.passes l.control.queue ∧
      Queue.blocked l.passes rest = Queue.blocked l.passes l.control.queue ∧
      l.fill = { l with
        control := { l.control with queue := rest }
        outbound := {
          bytes := l.outbound.bytes ++ wire taken
          frames := l.outbound.frames ++ taken.map Unwritten.whole } } ∧
      ((∀ p ∈ rest, l.passes p.kind = false) ∨ l.settings.drainLimit ≤ l.fill.outbound.size) ∧
      l.fill.fill = l.fill := by
  obtain ⟨taken, rest, s, hfill⟩ := l.fill_selects
  have hsated := l.sated_fill
  refine ⟨taken, rest, s.capped, s.length_taken, s.rest_sublist, s.taken_append_sendable,
    s.blocked_rest, hfill, ?_, fill_of_sated hsated⟩
  rw [hfill] at hsated ⊢
  exact hsated

end Link

end Reconnect
