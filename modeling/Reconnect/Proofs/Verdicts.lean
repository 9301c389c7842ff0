import Reconnect.Proofs.Drawing
import Reconnect.Proofs.Migrating
import Reconnect.Proofs.Rounds

/-!
# Whether a client has to move

After every list that is accepted one draw decides whether the client has to leave its member.  There
are lists after which nothing is left to the draw: those that the client's own member is not on, and
those that bring nobody new.  A list that is not accepted is turned down before anything is drawn.

## Protocol

* The verdict is to migrate exactly if the draw is below the value of the chance.
* A list brings nobody new if each of its places has a host that was on the list before; its order
  and the number of its places do not count.

## Results

* `Roster.update_eq_ite`: the verdict is one strict comparison of numbers.
* `MemberChange.chance_of_gone`, `MemberChange.chance_of_known`: the two certain chances.
* `Roster.members_run`: the members stay until another list is accepted.
* `Roster.certain_verdicts`: **a client whose own member is gone always moves, one whose ensemble
  got nobody new never does, and an empty list changes nothing at all.**
-/

namespace Reconnect

open Sampling

namespace MemberChange

variable {old new : List Endpoint} {current : Endpoint}

theorem chance_of_gone (h : current ∉ new) : (between old new current).chance = .always := by
  have hretained : (between old new current).retained = false := by
    rw [between, List.contains_eq_mem]
    exact decide_eq_false h
  rw [chance, Chance.of, hretained]
  rfl

/-- Every place counts as kept, so there is no share to give up. -/
theorem chance_of_known (hmem : current ∈ new) (h : ∀ e ∈ new, e ∈ old) :
    (between old new current).chance = .never := by
  have hretained : (between old new current).retained = true := List.contains_iff_mem.mpr hmem
  have harrivals : (between old new current).arrivals = [] := by
    apply List.filter_eq_nil_iff.mpr
    intro e he
    rw [List.contains_iff_mem.mpr (h e he)]
    exact Bool.false_ne_true
  rw [chance, Chance.of, hretained, harrivals, List.length_nil, Nat.add_zero,
    if_neg (by decide), if_pos (Or.inr (Nat.le_refl _))]

end MemberChange

namespace Roster

variable {ρ : Type} [Source ρ]

/-- **The verdict is a strict comparison of the draw with the value of the chance.** -/
theorem update_eq_ite (s : Roster ρ) {new : List Endpoint} (hnew : new ≠ []) (current : Endpoint) :
    (s.update new current).1 =
      if (unit s.random).1 < (MemberChange.between s.members new current).chance.value then .migrate
      else .stay := by
  have hhits := Chance.hits_iff (c := (MemberChange.between s.members new current).chance)
    (zero_le_unit s.random) (unit_lt_one s.random)
  rw [s.update_of_ne hnew]
  exact if_congr hhits rfl rfl

theorem members_run (s : Roster ρ) {ops : List Op} (h : ∀ op ∈ ops, op.accepted? = none) :
    (s.run ops).2.members = s.members := by
  induction ops generalizing s with
  | nil => rfl
  | cons op ops ih =>
    have hfirst := (cursor_step (s := s) (h op List.mem_cons_self)).1
    exact (ih _ fun op' hop' => h op' (List.mem_cons_of_mem op hop')).trans hfirst

/-- A client whose own member is gone moves, as every draw is below one. -/
theorem update_of_gone (s : Roster ρ) {new : List Endpoint} (hnew : new ≠ []) {current : Endpoint}
    (h : current ∉ new) : (s.update new current).1 = .migrate := by
  rw [s.update_eq_ite hnew, MemberChange.chance_of_gone h]
  exact if_pos (unit_lt_one s.random)

/-- A client of an ensemble that got nobody new stays, as no draw is below zero. -/
theorem update_of_known (s : Roster ρ) {new : List Endpoint} {current : Endpoint}
    (hmem : current ∈ new) (h : ∀ e ∈ new, e ∈ s.members) : (s.update new current).1 = .stay := by
  rw [s.update_eq_ite (List.ne_nil_of_mem hmem), MemberChange.chance_of_known hmem h]
  exact if_neg (not_lt_zero (zero_le_unit s.random))

/-- **Where nothing is left to the draw.**
    Every draw is at least zero and below one, and the verdict is to migrate exactly if it is below
    the chance.  That is one for a client whose own member is not on the new list, so it always
    moves, and zero for a client whose own member is on a list that brings nobody new, so it never
    does.  In particular a list that was accepted, or any part of it in any order, can be given again
    later and moves no client of its members.  Only an empty list is turned down, and then all of
    the roster is as before, also the source of its draws. -/
theorem certain_verdicts (s : Roster ρ) (new : List Endpoint) (current : Endpoint) :
    (0.0 ≤ (unit s.random).1 ∧ (unit s.random).1 < 1.0) ∧
    (new ≠ [] → (s.update new current).1 =
      if (unit s.random).1 < (MemberChange.between s.members new current).chance.value then .migrate
      else .stay) ∧
    (new ≠ [] → current ∉ new →
      (MemberChange.between s.members new current).chance.value = 1.0 ∧
      (s.update new current).1 = .migrate) ∧
    (current ∈ new → (∀ e ∈ new, e ∈ s.members) →
      (MemberChange.between s.members new current).chance.value = 0.0 ∧
      (s.update new current).1 = .stay) ∧
    (new ≠ [] → ∀ ops, (∀ op ∈ ops, op.accepted? = none) →
      ∀ again later, later ∈ again → (∀ e ∈ again, e ∈ new) →
        (((s.update new current).2.run ops).2.update again later).1 = .stay) ∧
    s.update [] current = (.rejected .emptyMembership, s) ∧
    ((∃ fault, (s.update new current).1 = .rejected fault) ↔ new = []) := by
  refine ⟨⟨zero_le_unit s.random, unit_lt_one s.random⟩, fun hnew => s.update_eq_ite hnew current,
    fun hnew hgone => ⟨?_, s.update_of_gone hnew hgone⟩,
    fun hmem hknown => ⟨?_, s.update_of_known hmem hknown⟩,
    fun hnew ops hops again later hlater hagain => ?_, s.update_nil current, ?_⟩
  · rw [MemberChange.chance_of_gone hgone]
    rfl
  · rw [MemberChange.chance_of_known hmem hknown]
    rfl
  · apply update_of_known _ hlater
    intro e he
    rw [members_run _ hops, s.update_of_ne hnew]
    exact (s.members_replace_perm hnew current).mem_iff.mpr (hagain e he)
  · constructor
    · rintro ⟨fault, hfault⟩
      by_contra hnew
      rw [s.update_eq_ite hnew] at hfault
      split at hfault <;> cases hfault
    · rintro rfl
      exact ⟨_, rfl⟩

/-- The only host of a list is taken off it, or it is put on the list once more and then given
again. -/
theorem certain_verdicts_alone :
    (alone.update [⟨.v4 2, 2181⟩] ⟨.v4 1, 2181⟩).1 = .migrate ∧
    (alone.update [⟨.v4 1, 2181⟩, ⟨.v4 1, 2181⟩] ⟨.v4 1, 2181⟩).1 = .stay ∧
    (((alone.update [⟨.v4 2, 2181⟩, ⟨.v4 1, 2181⟩] ⟨.v4 1, 2181⟩).2.run
      [.next 5, .update [] ⟨.v4 1, 2181⟩, .connected]).2.update
        [⟨.v4 1, 2181⟩, ⟨.v4 2, 2181⟩] ⟨.v4 2, 2181⟩).1 = .stay := by
  obtain ⟨-, -, hgone, -⟩ := certain_verdicts alone [⟨.v4 2, 2181⟩] ⟨.v4 1, 2181⟩
  obtain ⟨-, -, -, hknown, -⟩ :=
    certain_verdicts alone [⟨.v4 1, 2181⟩, ⟨.v4 1, 2181⟩] ⟨.v4 1, 2181⟩
  obtain ⟨-, -, -, -, hagain, -⟩ :=
    certain_verdicts alone [⟨.v4 2, 2181⟩, ⟨.v4 1, 2181⟩] ⟨.v4 1, 2181⟩
  exact ⟨(hgone (by decide) (by decide)).2, (hknown (by decide) (by decide)).2,
    hagain (by decide) _ (by decide) _ _ (by decide) (by decide)⟩

end Roster

end Reconnect
