import Mathlib.Data.List.Perm.Basic
import Reconnect.Hosts.Roster

/-!
# What a roster holds

A roster is used for as long as its client lives, and its list of members is replaced while it is
used.  The cursor, the place handed out last, the count of the round and the targets all speak of the
list of the moment, in which a member may stand more than once.

## Protocol

* A roster is placed if the place handed out last is one of its list, if its targets are on the
  list, and if a round is not yet counted to its end.
* A list is accepted if it is not empty; the members come from the list accepted last.

## Results

* `Roster.placed_step`: every use keeps a roster placed, and replaces the members only by an
  accepted list.
* `Roster.current_next`: the member handed out is the one that the roster then shows.
* `Roster.serves_run`: **after any uses the members are those of the list accepted last, and
  everything that is handed out or shown is one of them.**
-/

namespace Reconnect.Roster

open Sampling

variable {ρ : Type}

/-- Looking up the first place of an element gives the element, if it has one. -/
theorem bind_idxOf? (l : List Endpoint) (e : Endpoint) :
    ((l.idxOf? e).bind fun i => l[i]?) = if e ∈ l then some e else none := by
  by_cases he : e ∈ l
  · rw [if_pos he]
    obtain ⟨i, hi⟩ := Option.isSome_iff_exists.mp (List.isSome_idxOf?.mpr he)
    obtain ⟨hlt, heq, -⟩ := List.idxOf?_eq_some_iff.mp hi
    rw [hi, Option.bind_some, List.getElem?_eq_getElem hlt, heq]
  · rw [if_neg he, List.idxOf?_eq_none_iff.mpr he, Option.bind_none]

theorem lt_of_idxOf? {l : List Endpoint} {e : Endpoint} {i : Nat} (h : i ∈ l.idxOf? e) :
    i < l.length := (List.idxOf?_eq_some_iff.mp h).1

/-- All that refers to a place or a member refers to one on the list. -/
structure Placed (s : Roster ρ) : Prop where
  slot : ∀ i ∈ s.slot, i < s.size
  targets : ∀ e ∈ s.targets, e ∈ s.members
  handedOut : s.handedOut < s.size

theorem atCursor_mem (s : Roster ρ) : s.atCursor ∈ s.members := List.get_mem _ _

theorem members_next (s : Roster ρ) (delay : Nanos) : (s.next delay).2.members = s.members := by
  unfold next
  split <;> rfl

theorem next_mem {s : Roster ρ} (h : s.Placed) (delay : Nanos) :
    (s.next delay).1.endpoint ∈ s.members := by
  unfold next
  split
  · rename_i e targets htargets
    exact h.targets e (by rw [htargets]; exact List.mem_cons_self)
  · exact s.atCursor_mem

/-- The roster shows the member that it has handed out, also where a member stands more than
once. -/
theorem current_next {s : Roster ρ} (h : s.Placed) (delay : Nanos) :
    (s.next delay).2.current = some (s.next delay).1.endpoint := by
  have hmem := next_mem h delay
  unfold next at hmem ⊢
  split
  · rename_i e targets htargets
    rw [htargets] at hmem
    exact (bind_idxOf? s.members e).trans (if_pos hmem)
  · exact List.getElem?_eq_getElem s.cursor_lt

theorem placed_next {s : Roster ρ} (h : s.Placed) (delay : Nanos) : (s.next delay).2.Placed := by
  unfold next
  split
  · rename_i e targets htargets
    refine ⟨fun i hi => lt_of_idxOf? hi, fun r hr => ?_, h.handedOut⟩
    exact h.targets r (by rw [htargets]; exact List.mem_cons_of_mem e hr)
  · refine ⟨fun i hi => ?_, h.targets, ?_⟩
    · obtain rfl : s.cursor = i := Option.some.inj hi
      exact s.cursor_lt
    · show (if s.size ≤ s.handedOut + 1 then 0 else s.handedOut + 1) < s.size
      have hpos := s.size_pos
      split <;> omega

theorem placed_connected {s : Roster ρ} (h : s.Placed) : s.connected.Placed :=
  ⟨h.slot, fun _ he => (List.not_mem_nil he).elim, s.size_pos⟩

variable [Source ρ]

/-! ## Replacing the members -/

section Replace

variable (s : Roster ρ) {new : List Endpoint} (h : new ≠ []) (current : Endpoint)

theorem members_replace_perm : (s.replace new h current).2.members.Perm new := shuffle_perm _ _

theorem current_replace :
    (s.replace new h current).2.current = if current ∈ new then some current else none := by
  have hmem := (s.members_replace_perm h current).mem_iff (a := current)
  have hcurrent := bind_idxOf? (s.replace new h current).2.members current
  simp only [hmem] at hcurrent
  exact hcurrent

theorem replace_eq_migrate_iff :
    (s.replace new h current).1 = .migrate ↔
      (MemberChange.between s.members new current).chance.hits (unit s.random).1 = true := by
  simp only [replace]
  split <;> simp [*]

/-- A client that stays, and one whose own member is not retained, gets no targets. -/
theorem targets_replace_of_not
    (hnot : ¬ ((s.replace new h current).1 = .migrate ∧ current ∈ new)) :
    (s.replace new h current).2.targets = [] := by
  have hretained : (MemberChange.between s.members new current).retained = true ↔ current ∈ new :=
    List.contains_iff_mem
  rw [replace_eq_migrate_iff, ← hretained, ← Bool.and_eq_true] at hnot
  simp only [replace]
  rw [if_neg hnot]

/-- The targets of a client that should move and whose own member is retained are the arrivals, in
some order. -/
theorem targets_replace (hmove : (s.replace new h current).1 = .migrate) (hmem : current ∈ new) :
    (s.replace new h current).2.targets.Perm
      (MemberChange.between s.members new current).arrivals := by
  have hretained : (MemberChange.between s.members new current).retained = true :=
    List.contains_iff_mem.mpr hmem
  have hhits := (s.replace_eq_migrate_iff h current).mp hmove
  simp only [replace]
  rw [if_pos (by rw [hhits, hretained]; rfl)]
  exact shuffle_perm _ _

theorem placed_replace : (s.replace new h current).2.Placed := by
  refine ⟨fun i hi => lt_of_idxOf? hi, fun e he => ?_, Roster.size_pos _⟩
  by_cases hboth : (s.replace new h current).1 = .migrate ∧ current ∈ new
  · have harrival := (s.targets_replace h current hboth.1 hboth.2).mem_iff.mp he
    exact (s.members_replace_perm h current).mem_iff.mpr (List.mem_filter.mp harrival).1
  · rw [s.targets_replace_of_not h current hboth] at he
    exact (List.not_mem_nil he).elim

end Replace

/-! ## Runs -/

theorem update_of_ne (s : Roster ρ) {new : List Endpoint} (h : new ≠ []) (current : Endpoint) :
    s.update new current = s.replace new h current := dif_neg h

theorem update_nil (s : Roster ρ) (current : Endpoint) :
    s.update [] current = (.rejected .emptyMembership, s) := rfl

theorem run_append (s : Roster ρ) (ops more : List Op) :
    (s.run (ops ++ more)).2 = ((s.run ops).2.run more).2 := by
  induction ops generalizing s with
  | nil => rfl
  | cons op ops ih => exact ih _

/-- The list of members that a use makes a roster accept. -/
def Op.accepted? : Op → Option (List Endpoint)
  | .update [] _ => none
  | .update (e :: l) _ => some (e :: l)
  | _ => none

/-- The list accepted last, which is the first one until another is accepted. -/
def lastAccepted (first : List Endpoint) (ops : List Op) : List Endpoint :=
  (ops.filterMap Op.accepted?).getLast?.getD first

omit [Source ρ] in
theorem lastAccepted_cons (first : List Endpoint) (op : Op) (ops : List Op) :
    lastAccepted first (op :: ops) = lastAccepted (op.accepted?.getD first) ops := by
  unfold lastAccepted
  cases haccepted : op.accepted? with
  | none => rw [List.filterMap_cons_none haccepted, Option.getD_none]
  | some new =>
    rw [List.filterMap_cons_some haccepted, List.getLast?_cons, Option.getD_some, Option.getD_some]

/-- Every use keeps a roster placed, and only an accepted list changes the members. -/
theorem placed_step {s : Roster ρ} (h : s.Placed) (op : Op) :
    (s.step op).2.Placed ∧ (s.step op).2.members.Perm (op.accepted?.getD s.members) := by
  cases op with
  | next delay => exact ⟨placed_next h delay, by rw [step, members_next]; exact List.Perm.refl _⟩
  | connected => exact ⟨placed_connected h, List.Perm.refl _⟩
  | update new current =>
    cases new with
    | nil => exact ⟨h, List.Perm.refl _⟩
    | cons e l =>
      have hnew : e :: l ≠ [] := List.cons_ne_nil e l
      rw [step, s.update_of_ne hnew current]
      exact ⟨s.placed_replace hnew current, s.members_replace_perm hnew current⟩

theorem placed_run {s : Roster ρ} (h : s.Placed) {first : List Endpoint}
    (hfirst : s.members.Perm first) (ops : List Op) :
    (s.run ops).2.Placed ∧ (s.run ops).2.members.Perm (lastAccepted first ops) := by
  induction ops generalizing s first with
  | nil => exact ⟨h, hfirst⟩
  | cons op ops ih =>
    obtain ⟨hplaced, hmembers⟩ := placed_step h op
    rw [lastAccepted_cons]
    refine ih hplaced (hmembers.trans ?_)
    cases op.accepted? with
    | none => exact hfirst
    | some new => exact List.Perm.refl _

/-- What a roster is good for while `list` is the list accepted last. -/
structure Serves (list : List Endpoint) (s : Roster ρ) : Prop where
  members : s.members.Perm list
  size : s.size = list.length ∧ s.size ≠ 0
  places : s.cursor < s.size ∧ ∀ i ∈ s.slot, i < s.size
  targets : ∀ e ∈ s.targets, e ∈ s.members
  /-- What is handed out is a member, and it is the one shown then. -/
  next : ∀ delay, (s.next delay).1.endpoint ∈ s.members ∧
    (s.next delay).2.members = s.members ∧
    (s.next delay).2.current = some (s.next delay).1.endpoint
  connected : s.connected.members = s.members ∧ s.connected.current = s.current
  rejected : ∀ current, s.update [] current = (.rejected .emptyMembership, s)
  /-- An accepted list is taken over, and the client's own member is shown if it is on it. -/
  accepted : ∀ new current, new ≠ [] →
    ((s.update new current).1 = .stay ∨ (s.update new current).1 = .migrate) ∧
    (s.update new current).2.members.Perm new ∧
    (s.update new current).2.current = if current ∈ new then some current else none

theorem Placed.serves {s : Roster ρ} (h : s.Placed) {list : List Endpoint}
    (hmembers : s.members.Perm list) : s.Serves list where
  members := hmembers
  size := ⟨hmembers.length_eq, Nat.ne_of_gt s.size_pos⟩
  places := ⟨s.cursor_lt, h.slot⟩
  targets := h.targets
  next := fun delay => ⟨next_mem h delay, members_next s delay, current_next h delay⟩
  connected := ⟨rfl, rfl⟩
  rejected := s.update_nil
  accepted := by
    intro new current hnew
    rw [s.update_of_ne hnew current]
    refine ⟨?_, s.members_replace_perm hnew current, s.current_replace hnew current⟩
    simp only [replace]
    split
    · exact .inr rfl
    · exact .inl rfl

theorem placed_ofList {random : ρ} {list : List Endpoint} {s : Roster ρ}
    (h : ofList random list = .ok s) : s.Placed ∧ s.members.Perm list := by
  cases list with
  | nil => cases h
  | cons e l =>
    obtain rfl := Except.ok.inj h
    refine ⟨⟨fun i hi => ?_, fun r hr => (List.not_mem_nil hr).elim, Roster.size_pos _⟩, ?_⟩
    · cases hi
    · exact shuffle_perm _ _

/-- A roster that some uses have led to. -/
def Reachable (s : Roster ρ) : Prop :=
  ∃ (random : ρ) (list : List Endpoint) (first : Roster ρ) (ops : List Op),
    ofList random list = .ok first ∧ (first.run ops).2 = s

theorem Reachable.placed {s : Roster ρ} (h : s.Reachable) : s.Placed := by
  obtain ⟨random, list, first, ops, hfirst, rfl⟩ := h
  obtain ⟨hplaced, hmembers⟩ := placed_ofList hfirst
  exact (placed_run hplaced hmembers ops).1

/-- **A roster made of any list but the empty one is never empty, and after any uses its members are
those of the list accepted last, in some order. All that it hands out is one of them and is what it
shows right after.** -/
theorem serves_run (random : ρ) {list : List Endpoint} (hlist : list ≠ []) :
    ∃ s : Roster ρ, ofList random list = .ok s ∧
      ∀ ops, (s.run ops).2.Serves (lastAccepted list ops) := by
  obtain ⟨s, hs⟩ : ∃ s : Roster ρ, ofList random list = .ok s := by
    cases list with
    | nil => exact (hlist rfl).elim
    | cons e l => exact ⟨_, rfl⟩
  refine ⟨s, hs, fun ops => ?_⟩
  obtain ⟨hplaced, hmembers⟩ := placed_ofList hs
  obtain ⟨hrun, hlast⟩ := placed_run hplaced hmembers ops
  exact hrun.serves hlast

/-- A host that stands on the list twice, an update that is not accepted, and one that is. -/
def comings : List Op :=
  [.next 0, .connected, .update [] ⟨.v4 1, 2181⟩,
    .update [⟨.v4 2, 2181⟩, ⟨.v4 3, 2181⟩, ⟨.v4 2, 2181⟩] ⟨.v4 2, 2181⟩, .next 5]

theorem serves_comings :
    ∃ s : Roster Scripted,
      ofList ⟨[], 0⟩ [⟨.v4 1, 2181⟩, ⟨.v4 2, 2181⟩, ⟨.v4 1, 2181⟩] = .ok s ∧
      (s.run comings).2.Serves [⟨.v4 2, 2181⟩, ⟨.v4 3, 2181⟩, ⟨.v4 2, 2181⟩] := by
  obtain ⟨s, hs, hserves⟩ := serves_run (Scripted.mk [] 0)
    (List.cons_ne_nil (⟨.v4 1, 2181⟩ : Endpoint) [⟨.v4 2, 2181⟩, ⟨.v4 1, 2181⟩])
  exact ⟨s, hs, hserves comings⟩

end Reconnect.Roster
