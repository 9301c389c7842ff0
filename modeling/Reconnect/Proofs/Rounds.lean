import Mathlib.Data.List.Rotate
import Reconnect.Proofs.Membership

/-!
# Rounds

Between two lists of members a roster goes round and round.  Where a round starts depends on all
that was done before, and while it lasts the roster may be told that a connection is up, may refuse
a list, and may have targets to hand out first.  None of this makes it leave out a place, or hand
one out twice.

## Protocol

* A slot is a member with its place; a host that stands on the list twice has two slots.
* `Roster.handed` lists the slots that a run hands out in the round, in order.  A target is handed
  out beside the round.
* A use that brings no list, or one that is not accepted, is within one reign of the list.

## Results

* `Roster.handed_eq`: within a reign the slots follow each other from the cursor on, around the end.
* `Roster.map_slotAt_range`: as many slots as there are places, a number of times over, are the list
  rotated to the cursor, as many times.
* `Roster.endpoints_run`: without targets, what is handed out is what is handed out in the round.
* `Roster.handed_rounds`: **every round hands out every slot once, from the cursor on, and all
  rounds are alike; after an update the client's own member comes last.**
-/

namespace Reconnect.Roster

open Sampling

variable {ρ : Type}

/-- The roster is asked for a member. -/
def Op.asks : Op → Bool
  | .next _ => true
  | _ => false

/-- The member that an answer hands out. -/
def Answer.endpoint? : Answer → Option Endpoint
  | .turn t => some t.endpoint
  | _ => Option.none

/-- The slot at the place `i`, counted around the end. -/
def slotAt (s : Roster ρ) (i : Nat) : Endpoint × Nat :=
  (s.members.get ⟨i % s.size, Nat.mod_lt i s.size_pos⟩, i % s.size)

/-- The slot that a use hands out in the round: the member, with the place that the roster then
notes. -/
def inRound? (s : Roster ρ) : Op → Option (Endpoint × Nat)
  | .next delay =>
    if s.targets = [] then (s.next delay).2.slot.map ((s.next delay).1.endpoint, ·) else none
  | _ => none

/-! ## Slots -/

theorem slotAt_of_mod_eq (s : Roster ρ) {i j : Nat} (h : i % s.size = j % s.size) :
    s.slotAt i = s.slotAt j := by
  unfold slotAt
  simp only [h]

theorem slotAt_congr {s t : Roster ρ} (h : t.members = s.members) (i : Nat) :
    t.slotAt i = s.slotAt i := by
  obtain ⟨members, _, _, _, _, _, _⟩ := s
  obtain ⟨members', _, _, _, _, _, _⟩ := t
  dsimp only at h
  subst h
  rfl

theorem slotAt_of_lt (s : Roster ρ) {i : Nat} {e : Endpoint} (h : s.members[i]? = some e) :
    s.slotAt i = (e, i) := by
  obtain ⟨hlt, he⟩ := List.getElem?_eq_some_iff.mp h
  have hmod : i % s.size = i := Nat.mod_eq_of_lt hlt
  unfold slotAt
  simp only [hmod, List.get_eq_getElem, he]

/-- One round from the place `c` on. -/
theorem map_slotAt_range_size (s : Roster ρ) (c : Nat) :
    ((List.range s.size).map fun i => s.slotAt (c + i)) = s.members.zipIdx.rotate c := by
  apply List.ext_getElem
  · rw [List.length_map, List.length_range, List.length_rotate, List.length_zipIdx, size]
  · intro k hk hk'
    rw [List.getElem_map, List.getElem_range, List.getElem_rotate, List.getElem_zipIdx]
    simp only [slotAt, size, List.length_zipIdx, List.get_eq_getElem, Nat.add_comm c k,
      Nat.zero_add]

/-- A number of rounds from the place `c` on. -/
theorem map_slotAt_range (s : Roster ρ) (c n : Nat) :
    ((List.range (n * s.size)).map fun i => s.slotAt (c + i)) =
      (List.replicate n (s.members.zipIdx.rotate c)).flatten := by
  induction n with
  | zero => rw [Nat.zero_mul]; rfl
  | succ n ih =>
    have hround (i : Nat) : s.slotAt (c + (n * s.size + i)) = s.slotAt (c + i) := by
      apply s.slotAt_of_mod_eq
      rw [Nat.add_left_comm, Nat.add_comm, Nat.add_mul_mod_self_right]
    rw [Nat.succ_mul, List.range_add, List.map_append, ih, List.map_map, List.replicate_succ',
      List.flatten_append, List.flatten_singleton, ← s.map_slotAt_range_size c]
    simp only [Function.comp_def, hround]

theorem next_of_nil {s : Roster ρ} (h : s.targets = []) (delay : Nanos) :
    s.next delay =
      ({ endpoint := s.atCursor, spin := s.size ≤ s.handedOut + 1 ∧ delay ≠ 0 }, s.moveOn) := by
  rw [next, h]

/-- What is handed out in the round is the slot at the cursor. -/
theorem inRound?_next {s : Roster ρ} (h : s.targets = []) (delay : Nanos) :
    s.inRound? (.next delay) = some (s.slotAt s.cursor) := by
  have hcursor : s.members[s.cursor]? = some s.atCursor := List.getElem?_eq_getElem s.cursor_lt
  rw [s.slotAt_of_lt hcursor, inRound?, if_pos h, next_of_nil h]
  rfl

variable [Source ρ]

/-- The slots that are handed out in the round, in order. -/
def handed (s : Roster ρ) : List Op → List (Endpoint × Nat)
  | [] => []
  | op :: ops => (s.inRound? op).toList ++ (s.step op).2.handed ops

theorem handed_append (s : Roster ρ) (ops more : List Op) :
    s.handed (ops ++ more) = s.handed ops ++ (s.run ops).2.handed more := by
  induction ops generalizing s with
  | nil => rfl
  | cons op ops ih =>
    rw [List.cons_append, handed, ih, handed, List.append_assoc]
    rfl

theorem handed_singleton (s : Roster ρ) (op : Op) : s.handed [op] = (s.inRound? op).toList :=
  List.append_nil _

/-! ## Within a reign -/

/-- Within a reign the members stay, and only the round moves the cursor, by one place. -/
theorem cursor_step {s : Roster ρ} {op : Op} (h : op.accepted? = none) :
    (s.step op).2.members = s.members ∧
    (s.inRound? op = none ∧ (s.step op).2.cursor = s.cursor ∨
      s.inRound? op = some (s.slotAt s.cursor) ∧ (s.step op).2.cursor = s.after s.cursor) := by
  cases op with
  | next delay =>
    refine ⟨members_next s delay, ?_⟩
    cases htargets : s.targets with
    | nil =>
      refine .inr ⟨inRound?_next htargets delay, ?_⟩
      rw [step, next_of_nil htargets]
      rfl
    | cons e targets =>
      have hsome : s.targets ≠ [] := by
        rw [htargets]
        exact List.cons_ne_nil e targets
      refine .inl ⟨if_neg hsome, ?_⟩
      rw [step, next, htargets]
  | connected => exact ⟨rfl, .inl ⟨rfl, rfl⟩⟩
  | update new current =>
    cases new with
    | nil => exact ⟨rfl, .inl ⟨rfl, rfl⟩⟩
    | cons e l => cases h

/-- **Within a reign the slots follow each other from the cursor on.** -/
theorem handed_eq (s : Roster ρ) {ops : List Op} (h : ∀ op ∈ ops, op.accepted? = none) :
    s.handed ops = (List.range (s.handed ops).length).map fun i => s.slotAt (s.cursor + i) := by
  induction ops generalizing s with
  | nil => rfl
  | cons op ops ih =>
    obtain ⟨hmembers, ⟨hslot, hcursor⟩ | ⟨hslot, hcursor⟩⟩ :=
      cursor_step (s := s) (h op List.mem_cons_self)
    all_goals
      have hothers := ih (s.step op).2 fun op' hop' => h op' (List.mem_cons_of_mem op hop')
      simp only [slotAt_congr hmembers] at hothers
    · rw [hcursor] at hothers
      rw [handed, hslot]
      exact hothers
    · have hnext (i : Nat) :
          s.slotAt ((s.step op).2.cursor + i) = s.slotAt (s.cursor + (i + 1)) := by
        apply s.slotAt_of_mod_eq
        rw [hcursor, after, Nat.mod_add_mod, Nat.add_assoc, Nat.add_comm 1 i]
      simp only [hnext] at hothers
      rw [handed, hslot, Option.toList_some, List.singleton_append, List.length_cons,
        List.range_succ_eq_map, List.map_cons, List.map_map]
      exact congrArg (s.slotAt s.cursor :: ·) hothers

/-- Without targets every use that asks is answered from the round. -/
theorem endpoints_run {s : Roster ρ} (hnone : s.targets = []) {ops : List Op}
    (h : ∀ op ∈ ops, op.accepted? = none) :
    (s.run ops).1.filterMap Answer.endpoint? = (s.handed ops).map Prod.fst ∧
    (s.handed ops).length = ops.countP Op.asks := by
  induction ops generalizing s with
  | nil => exact ⟨rfl, rfl⟩
  | cons op ops ih =>
    have hothers : ∀ op' ∈ ops, op'.accepted? = none :=
      fun op' hop' => h op' (List.mem_cons_of_mem op hop')
    have hfirst : op.accepted? = none := h op List.mem_cons_self
    cases op with
    | next delay =>
      have hstill : (s.step (.next delay)).2.targets = [] := by
        rw [step, next_of_nil hnone]
        exact hnone
      obtain ⟨hendpoints, hlength⟩ := ih hstill hothers
      rw [handed, inRound?_next hnone, Option.toList_some, List.singleton_append]
      refine ⟨?_, ?_⟩
      · have hturn : (s.slotAt s.cursor).1 = (s.next delay).1.endpoint := by
          rw [next_of_nil hnone, slotAt]
          simp only [Nat.mod_eq_of_lt (show s.cursor < s.size from s.cursor_lt)]
          rfl
        rw [List.map_cons, hturn, ← hendpoints]
        rfl
      · rw [List.length_cons, hlength, List.countP_cons_of_pos rfl]
    | connected => exact ih (s := s.connected) rfl hothers
    | update new current =>
      cases new with
      | nil => exact ih hnone hothers
      | cons e l => cases hfirst

/-! ## Rounds -/

theorem flatten_replicate_perm {α : Type} {l l' : List α} (h : l.Perm l') (n : Nat) :
    (List.replicate n l).flatten.Perm (List.replicate n l').flatten := by
  induction n with
  | zero => exact List.Perm.refl _
  | succ n ih =>
    rw [List.replicate_succ, List.replicate_succ, List.flatten_cons, List.flatten_cons]
    exact h.append ih

/-- A new list that holds the client's own member starts with the place behind that member. -/
theorem cursor_replace (s : Roster ρ) {new : List Endpoint} (h : new ≠ []) {current : Endpoint}
    (hmem : current ∈ new) :
    ∃ p, (s.replace new h current).2.slot = some p ∧
      (s.replace new h current).2.members[p]? = some current ∧
      (s.replace new h current).2.cursor = (p + 1) % (s.replace new h current).2.size := by
  have hshuffled : current ∈ (s.replace new h current).2.members :=
    (s.members_replace_perm h current).mem_iff.mpr hmem
  obtain ⟨p, hp⟩ := Option.isSome_iff_exists.mp (List.isSome_idxOf?.mpr hshuffled)
  obtain ⟨hlt, heq, -⟩ := List.idxOf?_eq_some_iff.mp hp
  have hslot : (s.replace new h current).2.slot = some p := hp
  refine ⟨p, hslot, by rw [List.getElem?_eq_getElem hlt, heq], ?_⟩
  have hcursor : (s.replace new h current).2.cursor =
      (resume (s.replace new h current).2.size (s.replace new h current).2.slot
        (shuffle new (unit s.random).2).2).1 := rfl
  rw [hcursor, hslot, resume]

/-- As many slots as there are places, `n` times over, are `n` rounds from the cursor on. -/
theorem handed_eq_flatten (s : Roster ρ) {ops : List Op} (h : ∀ op ∈ ops, op.accepted? = none)
    {n : Nat} (hlength : (s.handed ops).length = n * s.size) :
    s.handed ops = (List.replicate n (s.members.zipIdx.rotate s.cursor)).flatten := by
  rw [s.handed_eq h, hlength, map_slotAt_range]

/-- A round that starts behind a place ends with that place. -/
theorem getLast?_handed (s : Roster ρ) {ops : List Op} (h : ∀ op ∈ ops, op.accepted? = none)
    (hlength : (s.handed ops).length = s.size) {p : Nat} (hcursor : s.cursor = (p + 1) % s.size) :
    (s.handed ops).getLast? = some (s.slotAt p) := by
  obtain ⟨k, hk⟩ := Nat.exists_eq_add_one_of_ne_zero (Nat.ne_of_gt s.size_pos)
  have hlast : s.slotAt (s.cursor + k) = s.slotAt p := by
    apply s.slotAt_of_mod_eq
    rw [hcursor, Nat.mod_add_mod, Nat.add_assoc, Nat.add_comm 1 k, ← hk, Nat.add_mod_right]
  rw [s.handed_eq h, hlength, hk, List.range_succ, List.map_append, List.map_singleton,
    List.getLast?_concat, hlast]

/-- **A roster without targets hands out every slot once in every round, from the cursor on and
around the end, and the rounds are all alike.**
    It may be told anything in between but a list that it accepts.  After a list that holds the
    client's own member, the slot of that member is the last one of the first round, also if the
    client is sent to the arrivals before that round or in the middle of it. -/
theorem handed_rounds (s : Roster ρ) :
    (s.targets = [] → ∀ (ops : List Op) (n : Nat), (∀ op ∈ ops, op.accepted? = none) →
      ops.countP Op.asks = n * s.size →
      s.handed ops = (List.replicate n (s.members.zipIdx.rotate s.cursor)).flatten ∧
      (s.run ops).1.filterMap Answer.endpoint? =
        (List.replicate n (s.members.rotate s.cursor)).flatten ∧
      (s.handed ops).Perm (List.replicate n s.members.zipIdx).flatten ∧
      ((s.run ops).1.filterMap Answer.endpoint?).Perm (List.replicate n s.members).flatten) ∧
    ∀ new current, current ∈ new →
      ∃ p, (s.update new current).2.slot = some p ∧
        (s.update new current).2.members[p]? = some current ∧
        ∀ ops, (∀ op ∈ ops, op.accepted? = none) →
          ((s.update new current).2.handed ops).length = (s.update new current).2.size →
          (s.update new current).2.handed ops =
            (s.update new current).2.members.zipIdx.rotate (p + 1) ∧
          ((s.update new current).2.handed ops).getLast? = some (current, p) := by
  refine ⟨fun hnone ops n hops hcount => ?_, fun new current hmem => ?_⟩
  · obtain ⟨hendpoints, hlength⟩ := endpoints_run hnone hops
    have hhanded := s.handed_eq_flatten hops (hlength.trans hcount)
    have hanswers : (s.run ops).1.filterMap Answer.endpoint? =
        (List.replicate n (s.members.rotate s.cursor)).flatten := by
      rw [hendpoints, hhanded, List.map_flatten, List.map_replicate, List.map_rotate,
        List.zipIdx_map_fst]
    refine ⟨hhanded, hanswers, ?_, ?_⟩
    · rw [hhanded]
      exact flatten_replicate_perm (List.rotate_perm _ _) n
    · rw [hanswers]
      exact flatten_replicate_perm (List.rotate_perm _ _) n
  · have hnew : new ≠ [] := List.ne_nil_of_mem hmem
    rw [s.update_of_ne hnew current]
    obtain ⟨p, hslot, hp, hcursor⟩ := s.cursor_replace hnew hmem
    generalize (s.replace new hnew current).2 = t at hslot hp hcursor ⊢
    refine ⟨p, hslot, hp, fun ops hops hlength => ⟨?_, ?_⟩⟩
    · have hplaces : t.size = t.members.zipIdx.length := List.length_zipIdx.symm
      rw [t.handed_eq_flatten hops (hlength.trans (Nat.one_mul _).symm), List.replicate_one,
        List.flatten_singleton, hcursor, hplaces, List.rotate_mod]
    · rw [t.getLast?_handed hops hlength hcursor, t.slotAt_of_lt hp]

/-- A roster of two hosts, one of which stands on its list twice. -/
def doubled : Roster Scripted where
  members := [⟨.v4 1, 2181⟩, ⟨.v4 2, 2181⟩, ⟨.v4 1, 2181⟩]
  cursor := 1
  slot := some 0
  handedOut := 1
  targets := []
  random := ⟨[], 0⟩
  cursor_lt := by decide

/-- Two rounds, with a wait, a connection and a list that is not accepted. -/
def wanderings : List Op :=
  [.next 0, .next 5, .connected, .next 0, .update [] ⟨.v4 1, 2181⟩, .next 5, .next 0, .next 5]

/-- The same roster with a list that leaves out one of its hosts and brings another. -/
def regrouped : Roster Scripted :=
  (doubled.update [⟨.v4 3, 2181⟩, ⟨.v4 1, 2181⟩] ⟨.v4 1, 2181⟩).2

theorem handed_wanderings :
    doubled.handed wanderings =
      [(⟨.v4 2, 2181⟩, 1), (⟨.v4 1, 2181⟩, 2), (⟨.v4 1, 2181⟩, 0),
        (⟨.v4 2, 2181⟩, 1), (⟨.v4 1, 2181⟩, 2), (⟨.v4 1, 2181⟩, 0)] ∧
    ∃ p, regrouped.slot = some p ∧
      (regrouped.handed [.connected, .next 0, .next 5]).getLast? = some (⟨.v4 1, 2181⟩, p) := by
  obtain ⟨hrounds, hupdate⟩ := doubled.handed_rounds
  refine ⟨(hrounds rfl wanderings 2 (by decide) (by decide)).1.trans (by decide), ?_⟩
  obtain ⟨p, hslot, -, hlast⟩ :=
    hupdate [⟨.v4 3, 2181⟩, ⟨.v4 1, 2181⟩] ⟨.v4 1, 2181⟩ (by decide)
  have hmembers := doubled.members_replace_perm
    (List.cons_ne_nil (⟨.v4 3, 2181⟩ : Endpoint) [⟨.v4 1, 2181⟩]) ⟨.v4 1, 2181⟩
  have hsize : regrouped.size = 2 := hmembers.length_eq
  have hturns : ∀ op ∈ [Op.next 0, .next 5], op.accepted? = none := by decide
  have hhanded : (regrouped.handed [.connected, .next 0, .next 5]).length = 2 :=
    (endpoints_run (s := regrouped.connected) rfl hturns).2
  exact ⟨p, hslot, (hlast _ (by decide) (hhanded.trans hsize.symm)).2⟩

end Reconnect.Roster
