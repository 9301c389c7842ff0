import Reconnect.Packet

/-!
# The outgoing queue

Packets wait in the order of their submission. What may not be sent yet is skipped and keeps its
place.

## Results

* `Queue.pop_eq_some_iff`: the packet taken is the first that may be sent, and the others
  keep their order.
* `Queue.pop_eq_none_iff`: nothing is taken exactly when nothing may be sent.
* `Queue.mem_without_iff`: throwing away a kind leaves every other packet, and none of that kind.
-/

namespace Reconnect

/-- Packets in the order in which they are to be sent. -/
abbrev Queue := List Packet

namespace Queue

/-- Takes out the first packet of a permitted kind. -/
def pop (permitted : Kind → Bool) : Queue → Option (Packet × Queue)
  | [] => none
  | p :: q =>
    if permitted p.kind then some (p, q)
    else (pop permitted q).map fun (found, rest) => (found, p :: rest)

/-- Takes out the first packets of permitted kinds, at most `n` of them. -/
def popMany (permitted : Kind → Bool) : Nat → Queue → List Packet × Queue
  | 0, q => ([], q)
  | n + 1, q =>
    match pop permitted q with
    | none => ([], q)
    | some (p, rest) =>
      let others := popMany permitted n rest
      (p :: others.1, others.2)

def mayPop (permitted : Kind → Bool) (q : Queue) : Bool := q.any fun p => permitted p.kind

/-- The packets that are not of the kind. -/
def without (kind : Kind) (q : Queue) : Queue := q.filter fun p => p.kind ≠ kind

def ofKind (kind : Kind) (q : Queue) : Queue := q.filter fun p => p.kind = kind

@[simp] theorem mem_without_iff {kind : Kind} {q : Queue} {p : Packet} :
    p ∈ without kind q ↔ p ∈ q ∧ p.kind ≠ kind := by
  rw [without, List.mem_filter, decide_eq_true_eq]

theorem without_append (kind : Kind) (q more : Queue) :
    without kind (q ++ more) = without kind q ++ without kind more := List.filter_append ..

/-- A packet of another kind is left as often as it was there. -/
theorem count_without {kind : Kind} {p : Packet} (hp : p.kind ≠ kind) (q : Queue) :
    (without kind q).count p = q.count p :=
  List.count_filter (decide_eq_true hp)

/-- There is nothing to throw away exactly if no packet is of the kind. -/
theorem without_eq_self_iff {kind : Kind} {q : Queue} :
    without kind q = q ↔ ∀ p ∈ q, p.kind ≠ kind := by
  rw [without, List.filter_eq_self]
  exact forall₂_congr fun p _ => decide_eq_true_iff

theorem without_without (kind : Kind) (q : Queue) :
    without kind (without kind q) = without kind q :=
  without_eq_self_iff.mpr fun _ hp => (mem_without_iff.mp hp).2

theorem pop_eq_none_iff {permitted : Kind → Bool} {q : Queue} :
    pop permitted q = none ↔ ∀ p ∈ q, permitted p.kind = false := by
  induction q with
  | nil => simp [pop]
  | cons p q ih =>
    unfold pop
    split
    · rename_i h
      simp [h]
    · rename_i h
      simp [ih, h]

theorem pop_eq_some_iff {permitted : Kind → Bool} {q rest : Queue} {p : Packet} :
    pop permitted q = some (p, rest) ↔
      permitted p.kind = true ∧ ∃ front back, q = front ++ p :: back ∧ rest = front ++ back ∧
        ∀ r ∈ front, permitted r.kind = false := by
  induction q generalizing rest with
  | nil => simp [pop]
  | cons r q ih =>
    unfold pop
    split
    · rename_i h
      simp only [Option.some.injEq, Prod.mk.injEq]
      constructor
      · rintro ⟨rfl, rfl⟩
        exact ⟨h, [], q, rfl, rfl, by simp⟩
      · rintro ⟨hp, front, back, hq, rfl, hf⟩
        cases front with
        | nil => simpa using hq
        | cons s front =>
          simp only [List.cons_append, List.cons.injEq] at hq
          have := hf s (by simp)
          rw [← hq.1, h] at this
          cases this
    · rename_i h
      rw [Option.map_eq_some_iff]
      constructor
      · rintro ⟨⟨found, rest'⟩, hfound, heq⟩
        simp only [Prod.mk.injEq] at heq
        obtain ⟨rfl, rfl⟩ := heq
        obtain ⟨hp, front, back, rfl, rfl, hf⟩ := ih.mp hfound
        exact ⟨hp, r :: front, back, rfl, rfl, by simpa [h] using hf⟩
      · rintro ⟨hp, front, back, hq, rfl, hf⟩
        cases front with
        | nil =>
          simp only [List.nil_append, List.cons.injEq] at hq
          rw [hq.1] at h
          exact absurd hp h
        | cons s front =>
          simp only [List.cons_append, List.cons.injEq] at hq
          obtain ⟨rfl, rfl⟩ := hq
          exact ⟨(p, front ++ back),
            ih.mpr ⟨hp, front, back, rfl, rfl, fun t ht => hf t (List.mem_cons_of_mem _ ht)⟩, rfl⟩

end Queue

end Reconnect
