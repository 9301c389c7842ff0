import Reconnect.Proofs.Spinning

/-!
# The detour to the arrivals

A client that is picked to give the arrivals work is led past the round: it gets the arrivals first,
in a random order, and only then the round goes on, from the place behind its own member.  The way
back is shorter if a connection is made before all arrivals were handed out.

The arrivals are queued beside the round, so two things have to be told apart: what the detour hands
out, and that it leaves the round where it was.

## Protocol

* The arrivals are the slots of the new list whose host was not on the old one; a host that stands
  on the new list twice arrives twice.
* A roster resumes at a place if the next member comes from the round and from that place, counted
  around the end.

## Results

* `Roster.run_of_targets`: as long as there are targets, they are handed out one after the other,
  nobody has to wait, and the rest of the roster stays as it is.
* `Roster.detours_of_targets`: what is handed out and what is queued are the arrivals, and the round
  goes on at one place after the last arrival and after a connection.
* `Roster.detour`: **a client that is picked gets every arrival once and then goes on behind its own
  member, or does so as soon as it is connected; any other client is in the round at once; and no
  target outlives an accepted list.**
-/

namespace Reconnect.Roster

open Sampling

variable {ρ : Type}

/-- The turn that an answer gives. -/
def Answer.turn? : Answer → Option Turn
  | .turn t => some t
  | _ => Option.none

/-- The next member comes from the round, from the slot at the place `i`. -/
def Resumes (s : Roster ρ) (i : Nat) : Prop :=
  ∀ delay, s.inRound? (.next delay) = some (s.slotAt i)

theorem resumes_cursor {s : Roster ρ} (h : s.targets = []) : s.Resumes s.cursor :=
  inRound?_next h

/-- A roster whose cursor stands behind the place `p` goes on there, whatever was handed out beside
the round in between. -/
theorem resumes_of_cursor {s t : Roster ρ} {p : Nat} (hcursor : s.cursor = (p + 1) % s.size)
    (hmembers : t.members = s.members) (hstill : t.cursor = s.cursor) (hnone : t.targets = []) :
    t.Resumes (p + 1) := by
  have hsize : t.size = s.size := congrArg List.length hmembers
  have hplace : t.cursor % t.size = (p + 1) % t.size := by
    rw [hstill, hcursor, hsize, Nat.mod_mod]
  intro delay
  rw [resumes_cursor hnone delay, t.slotAt_of_mod_eq hplace]

/-- The arrivals, told from the two lists alone. -/
theorem arrivals_eq_filter (old new : List Endpoint) (current : Endpoint) :
    (MemberChange.between old new current).arrivals = new.filter (· ∉ old) := by
  simp only [MemberChange.between, List.contains_eq_mem, decide_not]

variable [Source ρ]

/-- A target is handed out beside the round. -/
theorem step_of_cons {s : Roster ρ} {e : Endpoint} {targets : List Endpoint}
    (h : s.targets = e :: targets) (delay : Nanos) :
    s.step (.next delay) =
      (.turn { endpoint := e, spin := false },
        { s with targets, slot := s.members.idxOf? e }) := by
  rw [step, next, h]

/-- **The targets are handed out in a row, and the round stays where it is.** -/
theorem run_of_targets (s : Roster ρ) {ops : List Op} (hops : ∀ op ∈ ops, op.restarts = false)
    (hcount : ops.countP Op.asks ≤ s.targets.length) :
    (s.run ops).1.filterMap Answer.turn? =
      (s.targets.take (ops.countP Op.asks)).map (fun e => { endpoint := e, spin := false }) ∧
    ∃ slot, (s.run ops).2 = { s with targets := s.targets.drop (ops.countP Op.asks), slot } := by
  induction ops generalizing s with
  | nil => exact ⟨rfl, s.slot, rfl⟩
  | cons op ops ih =>
    have hothers : ∀ op' ∈ ops, op'.restarts = false :=
      fun op' hop' => hops op' (List.mem_cons_of_mem op hop')
    have hfirst : op.restarts = false := hops op List.mem_cons_self
    cases op with
    | next delay =>
      rw [List.countP_cons_of_pos rfl] at hcount ⊢
      cases htargets : s.targets with
      | nil =>
        -- nobody asks for more members than there are targets
        rw [htargets] at hcount
        exact (Nat.not_succ_le_zero _ hcount).elim
      | cons e targets =>
        rw [htargets] at hcount
        obtain ⟨hturns, slot, hleft⟩ := ih { s with targets, slot := s.members.idxOf? e } hothers
          (Nat.le_of_succ_le_succ hcount)
        rw [run, step_of_cons htargets]
        refine ⟨?_, slot, hleft⟩
        rw [List.take_succ_cons, List.map_cons, ← hturns]
        rfl
    | connected => cases hfirst
    | update new current =>
      cases new with
      | nil => exact ih s hothers hcount
      | cons e l => cases hfirst

/-- The same for what is handed out: it is the first part of the targets, and the others are left. -/
theorem endpoints_of_targets (s : Roster ρ) {ops : List Op}
    (hops : ∀ op ∈ ops, op.restarts = false) (hcount : ops.countP Op.asks ≤ s.targets.length) :
    (s.run ops).1.filterMap Answer.endpoint? ++ (s.run ops).2.targets = s.targets := by
  obtain ⟨hturns, slot, hleft⟩ := s.run_of_targets hops hcount
  have hendpoints : (s.run ops).1.filterMap Answer.endpoint? =
      ((s.run ops).1.filterMap Answer.turn?).map Turn.endpoint := by
    rw [List.map_filterMap]
    congr 1
    funext answer
    cases answer <;> rfl
  rw [hendpoints, hturns, hleft, List.map_map]
  exact (congrArg (· ++ _) (List.map_id _)).trans (List.take_append_drop _ _)

/-! ## After a new list -/

section Update

variable {s : Roster ρ} {new : List Endpoint} {current : Endpoint}

/-- A list that holds the client's own member notes its first place, and the cursor is behind it. -/
theorem slot_update (hmem : current ∈ new) :
    ∃ p, (s.update new current).2.members.idxOf? current = some p ∧
      (s.update new current).2.cursor = (p + 1) % (s.update new current).2.size := by
  have hnew := List.ne_nil_of_mem hmem
  rw [s.update_of_ne hnew]
  obtain ⟨p, hslot, -, hcursor⟩ := s.cursor_replace hnew hmem
  exact ⟨p, hslot, hcursor⟩

/-- A client that was picked has every arrival before it, and there is one. -/
theorem targets_update (hmove : (s.update new current).1 = .migrate) (hmem : current ∈ new) :
    (s.update new current).2.targets.Perm (new.filter (· ∉ s.members)) ∧
    new.filter (· ∉ s.members) ≠ [] := by
  have hnew := List.ne_nil_of_mem hmem
  rw [s.update_of_ne hnew] at hmove ⊢
  rw [← arrivals_eq_filter s.members new current]
  have hhits := (s.replace_eq_migrate_iff hnew current).mp hmove
  exact ⟨s.targets_replace hnew current hmove hmem,
    arrivals_ne_nil (List.contains_iff_mem.mpr hmem) hhits⟩

/-- Any other client has nothing before it but the round. -/
theorem targets_update_of_not (hnew : new ≠ [])
    (hnot : (s.update new current).1 = .stay ∨ current ∉ new) :
    (s.update new current).2.targets = [] := by
  rw [s.update_of_ne hnew] at hnot ⊢
  refine s.targets_replace_of_not hnew current fun hboth => ?_
  rcases hnot with hstay | hgone
  · rw [hstay] at hboth
    cases hboth.1
  · exact hgone hboth.2

/-- What is queued after an accepted list was not on the list before, so it was not queued then. -/
theorem not_mem_targets_update (h : s.Placed) (hnew : new ≠ []) {e : Endpoint}
    (he : e ∈ s.targets) : e ∉ (s.update new current).2.targets := by
  intro hlater
  by_cases hboth : (s.update new current).1 = .migrate ∧ current ∈ new
  · have harrival := (targets_update hboth.1 hboth.2).1.mem_iff.mp hlater
    exact of_decide_eq_true (List.mem_filter.mp harrival).2 (h.targets e he)
  · rw [s.update_of_ne hnew] at hboth hlater
    rw [s.targets_replace_of_not hnew current hboth] at hlater
    exact List.not_mem_nil hlater

end Update

/-- What uses come to on a detour past the arrivals, from which a roster comes back to the round
behind the place `p`. -/
structure Detours (s : Roster ρ) (arrivals : List Endpoint) (p : Nat) (ops : List Op) : Prop where
  /-- What was handed out and what is still queued are the arrivals, in some order. -/
  kept : ((s.run ops).1.filterMap Answer.endpoint? ++ (s.run ops).2.targets).Perm arrivals
  no_wait : ∀ turn ∈ (s.run ops).1.filterMap Answer.turn?, turn.spin = false
  /-- After the last arrival the round goes on. -/
  ended : ops.countP Op.asks = arrivals.length →
    ((s.run ops).1.filterMap Answer.endpoint?).Perm arrivals ∧ (s.run ops).2.Resumes (p + 1)
  /-- A connection drops the arrivals that are left, and the round goes on at the same place. -/
  cut : (s.run ops).2.connected.targets = [] ∧ (s.run ops).2.connected.Resumes (p + 1)

/-- A roster that was given the arrivals as targets, and its cursor behind a place, is on a detour
for as long as there are arrivals to ask for. -/
theorem detours_of_targets {s : Roster ρ} {arrivals : List Endpoint}
    (hperm : s.targets.Perm arrivals) {p : Nat} (hcursor : s.cursor = (p + 1) % s.size)
    {ops : List Op} (hops : ∀ op ∈ ops, op.restarts = false)
    (hcount : ops.countP Op.asks ≤ arrivals.length) : s.Detours arrivals p ops := by
  rw [← hperm.length_eq] at hcount
  have hendpoints := s.endpoints_of_targets hops hcount
  obtain ⟨hturns, slot, hleft⟩ := s.run_of_targets hops hcount
  have hmembers : (s.run ops).2.members = s.members := by rw [hleft]
  have hstill : (s.run ops).2.cursor = s.cursor := by rw [hleft]
  refine ⟨?_, fun turn hturn => ?_, fun hall => ?_, rfl, ?_⟩
  · rw [hendpoints]
    exact hperm
  · rw [hturns] at hturn
    obtain ⟨e, -, rfl⟩ := List.mem_map.mp hturn
    rfl
  · have hnone : (s.run ops).2.targets = [] := by
      rw [hleft, hall, ← hperm.length_eq]
      exact List.drop_length
    refine ⟨?_, resumes_of_cursor hcursor hmembers hstill hnone⟩
    rw [hnone, List.append_nil] at hendpoints
    rw [hendpoints]
    exact hperm
  · exact resumes_of_cursor hcursor hmembers hstill rfl

/-- **A client that is picked is led past all arrivals, and then back to the round.**
    If its own member is on the new list, there are arrivals, and as many calls as there are
    arrivals hand out every one of them, in some order and without a wait.  The round then goes on
    behind the client's own member, and so it does as soon as the client is connected.  Any other
    client is in the round at once, behind its own member if that is on the list.  What an accepted
    list does never depends on what was queued before, and nothing of that is queued after it. -/
theorem detour {s : Roster ρ} (h : s.Reachable) {new : List Endpoint} (hnew : new ≠ [])
    (current : Endpoint) :
    ((s.update new current).1 = .migrate → current ∈ new →
      new.filter (· ∉ s.members) ≠ [] ∧
      ∃ p, (s.update new current).2.members.idxOf? current = some p ∧
        ∀ ops, (∀ op ∈ ops, op.restarts = false) →
          ops.countP Op.asks ≤ (new.filter (· ∉ s.members)).length →
          (s.update new current).2.Detours (new.filter (· ∉ s.members)) p ops) ∧
    ((s.update new current).1 = .stay ∨ current ∉ new →
      (s.update new current).2.targets = [] ∧
      (s.update new current).2.Resumes (s.update new current).2.cursor ∧
      (current ∈ new → ∃ p, (s.update new current).2.members.idxOf? current = some p ∧
        (s.update new current).2.Resumes (p + 1))) ∧
    (∀ e ∈ s.targets, e ∉ (s.update new current).2.targets) ∧
    ∀ targets, ({ s with targets } : Roster ρ).update new current = s.update new current := by
  refine ⟨fun hmove hmem => ?_, fun hnot => ?_, fun e he => ?_, fun targets => ?_⟩
  · obtain ⟨hperm, harrivals⟩ := targets_update hmove hmem
    obtain ⟨p, hslot, hcursor⟩ := slot_update (s := s) hmem
    exact ⟨harrivals, p, hslot, fun ops hops hcount =>
      detours_of_targets hperm hcursor hops hcount⟩
  · have hnone := targets_update_of_not hnew hnot
    refine ⟨hnone, resumes_cursor hnone, fun hmem => ?_⟩
    obtain ⟨p, hslot, hcursor⟩ := slot_update (s := s) hmem
    exact ⟨p, hslot, resumes_of_cursor hcursor rfl rfl hnone⟩
  · exact not_mem_targets_update h.placed hnew he
  · rw [update_of_ne _ hnew, update_of_ne _ hnew]
    rfl

/-- Two hosts arrive at a roster of one, one of them twice. -/
def crowd : List Endpoint :=
  [⟨.v4 2, 2181⟩, ⟨.v4 1, 2181⟩, ⟨.v4 3, 2181⟩, ⟨.v4 2, 2181⟩]

/-- The client of the host that was alone is led past the three arrivals, or stays in the round if
nobody arrives. -/
theorem detour_crowd :
    alone.Reachable ∧
    (∃ p, (alone.update crowd ⟨.v4 1, 2181⟩).2.members.idxOf? ⟨.v4 1, 2181⟩ = some p ∧
      (alone.update crowd ⟨.v4 1, 2181⟩).2.Detours
        [⟨.v4 2, 2181⟩, ⟨.v4 3, 2181⟩, ⟨.v4 2, 2181⟩] p
        [.next 5, .update [] ⟨.v4 1, 2181⟩, .next 0, .next 5]) ∧
    ∃ p, (alone.update [⟨.v4 1, 2181⟩, ⟨.v4 1, 2181⟩] ⟨.v4 1, 2181⟩).2.members.idxOf?
        ⟨.v4 1, 2181⟩ = some p ∧
      (alone.update [⟨.v4 1, 2181⟩, ⟨.v4 1, 2181⟩] ⟨.v4 1, 2181⟩).2.Resumes (p + 1) := by
  have hreachable : alone.Reachable := ⟨⟨[0], 0⟩, [⟨.v4 1, 2181⟩], alone, [], rfl, rfl⟩
  have hmove : (alone.update crowd ⟨.v4 1, 2181⟩).1 = .migrate := by decide +kernel
  have hstay : (alone.update [⟨.v4 1, 2181⟩, ⟨.v4 1, 2181⟩] ⟨.v4 1, 2181⟩).1 = .stay := by
    decide +kernel
  obtain ⟨-, p, hslot, hdetours⟩ :=
    (detour hreachable (List.cons_ne_nil _ _) ⟨.v4 1, 2181⟩).1 hmove (by decide)
  have hround :=
    ((detour hreachable (List.cons_ne_nil _ _) ⟨.v4 1, 2181⟩).2.1 (.inl hstay)).2.2 (by decide)
  exact ⟨hreachable, ⟨p, hslot, hdetours _ (by decide) (by decide)⟩, hround⟩

end Reconnect.Roster
