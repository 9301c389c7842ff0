import Mathlib.Data.List.DropRight
import Reconnect.Proofs.Migrating
import Reconnect.Proofs.Rounds

/-!
# When a caller has to wait

A caller that went through all members without a connection is told to spin.  The roster finds this
out with a counter that it carries on, wraps and clears while the list under it changes its size.
Seen from the outside the counter is not needed: what counts are the slots handed out in the round
since the count was last started anew.

## Protocol

* A connection restarts the count, and so does a list that is accepted.  A list that is not accepted
  does not.
* `Roster.tally` is the number of slots that a run hands out in the round after the last use that
  restarts the count, and from the beginning if there is none.

## Results

* `Roster.tally_concat`: one more use restarts the tally, adds the slot that it hands out, or leaves
  it alone.
* `Roster.handedOut_step`, `Roster.handedOut_run`: the counter is the tally, counted modulo the
  number of members.
* `Roster.spins_iff`: **a caller has to wait exactly if it asks for a delay, gets a member of the
  round, and the tally is then a multiple of the number of members.**
-/

namespace Reconnect.Roster

open Sampling

variable {ρ : Type}

/-- The use makes a roster count from zero. -/
def Op.restarts : Op → Bool
  | .next _ => false
  | .connected => true
  | .update new _ => !new.isEmpty

/-- The number of slots that a use hands out in the round. -/
def gain (s : Roster ρ) (op : Op) : Nat := (s.inRound? op).toList.length

theorem gain_next (s : Roster ρ) (delay : Nanos) :
    s.gain (.next delay) = if s.targets = [] then 1 else 0 := by
  unfold gain
  split
  · rename_i hnone
    rw [inRound?_next hnone]
    rfl
  · rename_i hsome
    rw [inRound?, if_neg hsome]
    rfl

/-- What makes the caller of `next` wait, told from the counter. -/
theorem spin_next (s : Roster ρ) (delay : Nanos) :
    (s.next delay).1.spin = true ↔ delay ≠ 0 ∧ s.targets = [] ∧ s.size ≤ s.handedOut + 1 := by
  cases htargets : s.targets with
  | nil =>
    rw [next_of_nil htargets]
    simp only [decide_eq_true_eq, true_and]
    exact And.comm
  | cons e targets =>
    rw [next, htargets]
    simp only [Bool.false_eq_true, reduceCtorEq, false_and, and_false]

/-- The uses up to the last one that restarts the count. -/
def untilRestart (ops : List Op) : List Op := ops.rdropWhile fun op => !op.restarts

/-- The uses after the last one that restarts the count, and all if there is none. -/
def sinceRestart (ops : List Op) : List Op := ops.rtakeWhile fun op => !op.restarts

theorem untilRestart_append_sinceRestart (ops : List Op) :
    untilRestart ops ++ sinceRestart ops = ops := List.rdropWhile_append_rtakeWhile ..

theorem sinceRestart_concat_of_restarts {op : Op} (h : op.restarts = true) (ops : List Op) :
    sinceRestart (ops ++ [op]) = [] :=
  List.rtakeWhile_concat_neg _ _ _ (by rw [h]; exact Bool.false_ne_true)

theorem untilRestart_concat {op : Op} (h : op.restarts = false) (ops : List Op) :
    untilRestart (ops ++ [op]) = untilRestart ops :=
  List.rdropWhile_concat_pos _ _ _ (by rw [h]; rfl)

theorem sinceRestart_concat {op : Op} (h : op.restarts = false) (ops : List Op) :
    sinceRestart (ops ++ [op]) = sinceRestart ops ++ [op] :=
  List.rtakeWhile_concat_pos _ _ _ (by rw [h]; rfl)

variable [Source ρ]

/-! ## The tally -/

/-- The number of slots handed out in the round since the count was restarted last. -/
def tally (s : Roster ρ) (ops : List Op) : Nat :=
  ((s.run (untilRestart ops)).2.handed (sinceRestart ops)).length

theorem tally_nil (s : Roster ρ) : s.tally [] = 0 := rfl

theorem tally_concat (s : Roster ρ) (ops : List Op) (op : Op) :
    s.tally (ops ++ [op]) = if op.restarts then 0 else s.tally ops + (s.run ops).2.gain op := by
  unfold tally
  cases hrestarts : op.restarts with
  | true =>
    rw [sinceRestart_concat_of_restarts hrestarts, if_pos rfl]
    rfl
  | false =>
    rw [sinceRestart_concat hrestarts, untilRestart_concat hrestarts, handed_append,
      List.length_append, ← run_append, untilRestart_append_sinceRestart, handed_singleton,
      if_neg Bool.false_ne_true]
    rfl

/-! ## The counter -/

/-- A use that does not restart the count leaves the members alone. -/
theorem size_step (s : Roster ρ) {op : Op} (h : op.restarts = false) :
    (s.step op).2.size = s.size := by
  cases op with
  | next delay => exact congrArg List.length (members_next s delay)
  | connected => cases h
  | update new current =>
    cases new with
    | nil => rfl
    | cons e l => cases h

/-- The counter is cleared by what restarts the count, and else goes on with each slot, around the
end. -/
theorem handedOut_step {s : Roster ρ} (h : s.Placed) (op : Op) :
    (s.step op).2.handedOut = if op.restarts then 0 else (s.handedOut + s.gain op) % s.size := by
  have hstill : s.handedOut % s.size = s.handedOut := Nat.mod_eq_of_lt h.handedOut
  cases op with
  | next delay =>
    rw [gain_next, Op.restarts, if_neg Bool.false_ne_true, step]
    cases htargets : s.targets with
    | nil =>
      have hcount : (s.next delay).2.handedOut =
          if s.size ≤ s.handedOut + 1 then 0 else s.handedOut + 1 := by
        rw [next_of_nil htargets]
        rfl
      rw [hcount, if_pos rfl]
      have hlt := h.handedOut
      split
      · have hround : s.handedOut + 1 = s.size := by omega
        rw [hround, Nat.mod_self]
      · exact (Nat.mod_eq_of_lt (by omega)).symm
    | cons e targets =>
      rw [next, htargets, if_neg (List.cons_ne_nil e targets)]
      exact hstill.symm
  | connected => rfl
  | update new current =>
    cases new with
    | nil => exact hstill.symm
    | cons e l => rfl

/-- A roster that has counted nothing yet counts the tally of its uses, around the end. -/
theorem handedOut_run {s : Roster ρ} (h : s.Placed) (hzero : s.handedOut = 0) (ops : List Op) :
    (s.run ops).2.handedOut = s.tally ops % (s.run ops).2.size := by
  -- the tally is told from the end of the uses, so the last use is the step
  induction ops using List.reverseRecOn with
  | nil =>
    rw [tally_nil, Nat.zero_mod]
    exact hzero
  | append_singleton ops op ih =>
    have hplaced : (s.run ops).2.Placed := (placed_run h (List.Perm.refl _) ops).1
    have hlast : (s.run (ops ++ [op])).2 = ((s.run ops).2.step op).2 := run_append s ops [op]
    rw [hlast, handedOut_step hplaced, tally_concat]
    cases hrestarts : op.restarts with
    | true =>
      rw [if_pos rfl, if_pos rfl, Nat.zero_mod]
    | false =>
      rw [if_neg Bool.false_ne_true, if_neg Bool.false_ne_true, size_step _ hrestarts, ih,
        Nat.mod_add_mod]

/-! ## Spinning -/

/-- The counter is about to wrap exactly if the next number is a multiple. -/
theorem le_mod_add_one_iff {n : Nat} (hn : 0 < n) (m : Nat) :
    n ≤ m % n + 1 ↔ ∃ k, 0 < k ∧ m + 1 = k * n := by
  have hlt := Nat.mod_lt m hn
  have hdiv : m / n * n + m % n = m := Nat.div_add_mod' m n
  constructor
  · intro hwrap
    refine ⟨m / n + 1, Nat.succ_pos _, ?_⟩
    rw [Nat.succ_mul]
    omega
  · rintro ⟨k, hk, hmul⟩
    obtain ⟨k, rfl⟩ := Nat.exists_eq_add_one_of_ne_zero (Nat.ne_of_gt hk)
    have hm : m = n - 1 + k * n := by
      rw [Nat.succ_mul] at hmul
      omega
    rw [hm, Nat.add_mul_mod_self_right, Nat.mod_eq_of_lt (by omega)]
    omega

theorem handedOut_ofList {random : ρ} {list : List Endpoint} {s : Roster ρ}
    (h : ofList random list = .ok s) : s.handedOut = 0 := by
  cases list with
  | nil => cases h
  | cons e l =>
    obtain rfl := Except.ok.inj h
    rfl

/-- The answer that a use gets in a run is the one that the roster of the moment gives. -/
theorem answer_run (s : Roster ρ) (before later : List Op) (op : Op) :
    (s.run (before ++ op :: later)).1[before.length]? = some ((s.run before).2.step op).1 := by
  induction before generalizing s with
  | nil => rfl
  | cons first before ih => exact ih _

/-- **A caller has to wait exactly after every full round without a connection.**
    In a run of any uses, a call that asks for a member makes its caller wait if and only if its
    delay is not zero, it gets a member of the round, and the slots handed out in the round since the
    roster was made, was told of a connection or accepted a list, this one included, are a positive
    multiple of its members.  A target is handed out at once and not counted, a slot is counted
    whatever the delay, and a list that is not accepted does not restart the count. -/
theorem spins_iff {random : ρ} {list : List Endpoint} {s : Roster ρ}
    (h : ofList random list = .ok s) (before : List Op) :
    (∀ delay later, ∃ turn,
      (s.run (before ++ .next delay :: later)).1[before.length]? = some (.turn turn) ∧
      (turn.spin = true ↔ delay ≠ 0 ∧ (s.run before).2.targets = [] ∧
        ∃ k, 0 < k ∧ s.tally (before ++ [.next delay]) = k * (s.run before).2.size) ∧
      ((s.run before).2.targets ≠ [] → turn.spin = false)) ∧
    (∀ delay, s.tally (before ++ [.next delay]) =
      if (s.run before).2.targets = [] then s.tally before + 1 else s.tally before) ∧
    (∀ current, s.tally (before ++ [.update [] current]) = s.tally before) ∧
    s.tally [] = 0 ∧ s.tally (before ++ [.connected]) = 0 ∧
    ∀ new current, new ≠ [] → s.tally (before ++ [.update new current]) = 0 := by
  obtain ⟨hplaced, -⟩ := placed_ofList h
  have hcounter := handedOut_run hplaced (handedOut_ofList h) before
  have htally (delay : Nanos) : s.tally (before ++ [.next delay]) =
      if (s.run before).2.targets = [] then s.tally before + 1 else s.tally before := by
    rw [tally_concat, gain_next, Op.restarts, if_neg Bool.false_ne_true]
    split <;> rfl
  refine ⟨fun delay later => ?_, htally, fun current => ?_, rfl, ?_, fun new current hnew => ?_⟩
  · have hspin := spin_next (s.run before).2 delay
    refine ⟨((s.run before).2.next delay).1, answer_run s before later _, ?_, fun hsome => ?_⟩
    · rw [hspin, hcounter, le_mod_add_one_iff (s.run before).2.size_pos]
      constructor
      · rintro ⟨hdelay, hnone, hfull⟩
        refine ⟨hdelay, hnone, ?_⟩
        rw [htally, if_pos hnone]
        exact hfull
      · rintro ⟨hdelay, hnone, hfull⟩
        rw [htally, if_pos hnone] at hfull
        exact ⟨hdelay, hnone, hfull⟩
    · rw [Bool.eq_false_iff]
      intro hwaits
      exact hsome (hspin.mp hwaits).2.1
  · rw [tally_concat]
    rfl
  · rw [tally_concat]
    rfl
  · rw [tally_concat]
    cases new with
    | nil => exact (hnew rfl).elim
    | cons e l => rfl

/-- A host that is alone on its list gets company: the newcomer is handed out beside the round, and
a round of two begins. -/
def company : List Op :=
  [.next 5, .update [⟨.v4 1, 2181⟩, ⟨.v4 2, 2181⟩] ⟨.v4 1, 2181⟩, .next 5, .next 0,
    .update [] ⟨.v4 1, 2181⟩]

theorem spins_company :
    ofList ⟨[0], 0⟩ [⟨.v4 1, 2181⟩] = .ok alone ∧ alone.tally (company ++ [.next 5]) = 2 ∧
    ∃ turn, (alone.run (company ++ [.next 5])).1[company.length]? = some (.turn turn) ∧
      turn.spin = true := by
  have hmade : ofList (Scripted.mk [0] 0) [⟨.v4 1, 2181⟩] = .ok alone := rfl
  have htally : alone.tally (company ++ [.next 5]) = 2 := by decide +kernel
  obtain ⟨turn, hturn, hspin, -⟩ := (spins_iff hmade company).1 5 []
  have htargets : (alone.run company).2.targets = [] := by decide +kernel
  have hsize : (alone.run company).2.size = 2 := by decide +kernel
  refine ⟨hmade, htally, turn, hturn, hspin.mpr ⟨by decide, htargets, 1, Nat.zero_lt_one, ?_⟩⟩
  rw [htally, hsize]

end Reconnect.Roster
