import Reconnect.Proofs.Membership

/-!
# Where a migration leads

A client that is told to migrate drops its connection and takes what the roster hands out next.  If
its own member has left the ensemble, that is a member of the new list, and so another one.  If its
own member is retained, the client was picked to give the arrivals work, and it takes one of them.

The arrivals are told from the old list alone.  A member that left with one list and comes back with
the next is an arrival for its own client, too, as long as that client still holds its connection.

## Protocol

* The client's own member rejoins if it is on the new list and was not on the old one.

## Results

* `Roster.Rejoins.current_ne`: a roster shows no member that can rejoin.
* `Roster.arrivals_ne_nil`: a retained client is picked only if there are arrivals.
* `Roster.migrates_elsewhere`: **a migration leads to another member, and so do all the targets,
  unless the client's own member rejoins; then that member is a target, and the only one if nobody
  else arrives.**
* `Roster.migrates_back`: a client that is sent back to the member it has to leave.
-/

namespace Reconnect.Roster

open Sampling

variable {ρ : Type}

/-- The member that a client is connected to comes back to an ensemble that it had left. -/
structure Rejoins (s : Roster ρ) (new : List Endpoint) (current : Endpoint) : Prop where
  back : current ∈ new
  left : current ∉ s.members

/-- What a roster shows is a member, so it cannot rejoin. -/
theorem Rejoins.current_ne {s : Roster ρ} {new : List Endpoint} {current : Endpoint}
    (h : s.Rejoins new current) : s.current ≠ some current := by
  intro hshown
  obtain ⟨i, -, hi⟩ := Option.bind_eq_some_iff.mp hshown
  exact h.left (List.mem_of_getElem? hi)

theorem next_mem_targets {s : Roster ρ} (h : s.targets ≠ []) (delay : Nanos) :
    (s.next delay).1.endpoint ∈ s.targets := by
  unfold next
  split
  · rename_i e targets htargets
    rw [htargets]
    exact List.mem_cons_self
  · rename_i htargets
    exact (h htargets).elim

theorem next_mem_members {s : Roster ρ} (h : s.targets = []) (delay : Nanos) :
    (s.next delay).1.endpoint ∈ s.members := by
  unfold next
  rw [h]
  exact s.atCursor_mem

/-- A client whose member is retained is picked by its share only, and there is a share only if the
ensemble has grown. -/
theorem arrivals_ne_nil {change : MemberChange} {draw : Float} (hretained : change.retained = true)
    (hhits : change.chance.hits draw = true) : change.arrivals ≠ [] := by
  cases hchance : change.chance with
  | never =>
    rw [hchance] at hhits
    cases hhits
  | always =>
    rw [MemberChange.chance, Chance.of, hretained] at hchance
    simp only [Bool.not_true, Bool.false_eq_true, if_false] at hchance
    split at hchance <;> cases hchance
  | share kept total =>
    obtain ⟨-, hgrown, -, -⟩ := Chance.of_eq_share_iff.mp hchance
    apply List.ne_nil_of_length_pos
    omega

variable {s : Roster ρ} {new : List Endpoint} {current : Endpoint}

theorem mem_arrivals_iff {e : Endpoint} :
    e ∈ (MemberChange.between s.members new current).arrivals ↔ e ∈ new ∧ e ∉ s.members := by
  simp only [MemberChange.between, List.mem_filter, Bool.not_eq_true', List.contains_eq_mem,
    decide_eq_false_iff_not]

variable [Source ρ]

/-- Only an accepted list makes a client migrate. -/
theorem ne_nil_of_migrate (h : (s.update new current).1 = .migrate) : new ≠ [] := by
  rintro rfl
  cases h

/-- The client's own member is a target exactly if it rejoins. -/
theorem current_mem_targets_iff (h : (s.update new current).1 = .migrate) :
    current ∈ (s.update new current).2.targets ↔ s.Rejoins new current := by
  have hnew := ne_nil_of_migrate h
  rw [s.update_of_ne hnew] at h ⊢
  by_cases hmem : current ∈ new
  · rw [(s.targets_replace hnew current h hmem).mem_iff, mem_arrivals_iff]
    exact ⟨fun hboth => ⟨hboth.1, hboth.2⟩, fun rejoins => ⟨rejoins.back, rejoins.left⟩⟩
  · rw [s.targets_replace_of_not hnew current fun hboth => hmem hboth.2]
    exact ⟨fun hin => (List.not_mem_nil hin).elim, fun rejoins => (hmem rejoins.back).elim⟩

/-- A client whose member is retained takes an arrival. -/
theorem next_mem_arrivals (h : (s.update new current).1 = .migrate) (hmem : current ∈ new)
    (delay : Nanos) :
    ((s.update new current).2.next delay).1.endpoint ∈ (s.update new current).2.targets ∧
      ((s.update new current).2.next delay).1.endpoint ∈
        (MemberChange.between s.members new current).arrivals := by
  have hnew := ne_nil_of_migrate h
  rw [s.update_of_ne hnew] at h ⊢
  have hperm := s.targets_replace hnew current h hmem
  have harrivals : (MemberChange.between s.members new current).arrivals ≠ [] :=
    arrivals_ne_nil (List.contains_iff_mem.mpr hmem) ((s.replace_eq_migrate_iff hnew current).mp h)
  have htargets : (s.replace new hnew current).2.targets ≠ [] := by
    intro hnil
    rw [hnil] at hperm
    exact harrivals hperm.nil_eq.symm
  have hnext := next_mem_targets htargets delay
  exact ⟨hnext, hperm.mem_iff.mp hnext⟩

/-- A client whose member is gone takes one of the new list. -/
theorem next_mem_new (h : (s.update new current).1 = .migrate) (hmem : current ∉ new)
    (delay : Nanos) : ((s.update new current).2.next delay).1.endpoint ∈ new := by
  have hnew := ne_nil_of_migrate h
  rw [s.update_of_ne hnew]
  have htargets := s.targets_replace_of_not hnew current fun hboth => hmem hboth.2
  exact (s.members_replace_perm hnew current).mem_iff.mp (next_mem_members htargets delay)

/-- **A migration leads elsewhere, unless the client's own member rejoins.**
    Then that member is among the targets, and it is what the client takes if nobody else arrives.
    A client whose connection is the one that the roster shows is never sent back. -/
theorem migrates_elsewhere (h : (s.update new current).1 = .migrate) :
    (¬ s.Rejoins new current →
      (∀ delay, ((s.update new current).2.next delay).1.endpoint ≠ current) ∧
      ∀ e ∈ (s.update new current).2.targets, e ≠ current) ∧
    (s.Rejoins new current →
      s.current ≠ some current ∧
      current ∈ (s.update new current).2.targets ∧
      ((∀ e ∈ new, e ∉ s.members → e = current) →
        ∀ delay, ((s.update new current).2.next delay).1.endpoint = current)) := by
  have htarget := current_mem_targets_iff h
  refine ⟨fun hstays => ⟨fun delay heq => ?_, fun e he heq => ?_⟩, fun rejoins => ?_⟩
  · by_cases hmem : current ∈ new
    · have hnext := (next_mem_arrivals h hmem delay).1
      rw [heq] at hnext
      exact hstays (htarget.mp hnext)
    · have hnext := next_mem_new h hmem delay
      rw [heq] at hnext
      exact hmem hnext
  · rw [heq] at he
    exact hstays (htarget.mp he)
  · refine ⟨rejoins.current_ne, htarget.mpr rejoins, fun honly delay => ?_⟩
    obtain ⟨hnew, hold⟩ := mem_arrivals_iff.mp (next_mem_arrivals h rejoins.back delay).2
    exact honly _ hnew hold

/-- A roster of one host whose next draw is zero. -/
def alone : Roster Scripted where
  members := [⟨.v4 1, 2181⟩]
  cursor := 0
  slot := none
  handedOut := 0
  targets := []
  random := ⟨[0], 0⟩
  cursor_lt := Nat.zero_lt_one

/-- A second host is added: a client of the first one goes there, and so does a client that still
holds a connection to the second one from before. -/
theorem migrates_alone :
    (alone.update [⟨.v4 1, 2181⟩, ⟨.v4 2, 2181⟩] ⟨.v4 1, 2181⟩).1 = .migrate ∧
    (∀ delay, ((alone.update [⟨.v4 1, 2181⟩, ⟨.v4 2, 2181⟩] ⟨.v4 1, 2181⟩).2.next
      delay).1.endpoint ≠ ⟨.v4 1, 2181⟩) ∧
    (alone.update [⟨.v4 1, 2181⟩, ⟨.v4 2, 2181⟩] ⟨.v4 2, 2181⟩).1 = .migrate ∧
    ∀ delay, ((alone.update [⟨.v4 1, 2181⟩, ⟨.v4 2, 2181⟩] ⟨.v4 2, 2181⟩).2.next
      delay).1.endpoint = ⟨.v4 2, 2181⟩ := by
  have hfirst :
      (alone.update [⟨.v4 1, 2181⟩, ⟨.v4 2, 2181⟩] ⟨.v4 1, 2181⟩).1 = .migrate := by decide +kernel
  have hsecond :
      (alone.update [⟨.v4 1, 2181⟩, ⟨.v4 2, 2181⟩] ⟨.v4 2, 2181⟩).1 = .migrate := by decide +kernel
  refine ⟨hfirst, ?_, hsecond, ?_⟩
  · exact ((migrates_elsewhere hfirst).1 fun rejoins => rejoins.left (by decide)).1
  · exact ((migrates_elsewhere hsecond).2 ⟨by decide, by decide⟩).2.2 (by decide)

/-- A client of the second of two hosts: the host is taken off the list and put back. -/
def offAndOn : List Op :=
  [.next 0, .connected, .update [⟨.v4 1, 2181⟩] ⟨.v4 2, 2181⟩,
    .update [⟨.v4 1, 2181⟩, ⟨.v4 2, 2181⟩] ⟨.v4 2, 2181⟩, .next 0]

theorem migrates_back :
    (ofList (Scripted.mk [] 0) [⟨.v4 1, 2181⟩, ⟨.v4 2, 2181⟩]).map (fun s => (s.run offAndOn).1) =
      .ok [.turn ⟨⟨.v4 2, 2181⟩, false⟩, .none, .updated .migrate, .updated .migrate,
        .turn ⟨⟨.v4 2, 2181⟩, false⟩] := by
  decide +kernel

end Reconnect.Roster
