import Reconnect.Proofs.Naming
import Reconnect.Proofs.Rounds

/-!
# From a connect string to a roster

A connect string is read, its hosts are looked up one by one, and a roster is made of the addresses.
Hosts that are not known are passed over, and a host may have several addresses, none, or those of
another host.  There are three ways to come out with nothing, and two faults to tell them apart.

## Protocol

* What a host is looked up to is a parameter: its addresses, or that it is not known.
* The addresses of a list of hosts are those of its known hosts, one host after the other.

## Results

* `Lookup.endpointsOf_eq`: looking up fails exactly if there is no address, with all the hosts.
* `Roster.founded_ofList`: a roster hands out the list that it was made of in its first round.
* `Roster.ofConnectString_founded`: **a roster is made exactly if a host that was read has an
  address; it is made of all the addresses, and a fault tells why there is none.**
-/

namespace Reconnect

namespace Lookup

/-- The addresses of the hosts that are known, one host after the other. -/
def addresses (resolve : Resolver) (hosts : List String) : List Endpoint :=
  (hosts.filterMap resolve).flatten

theorem flatMap_getD_eq (resolve : Resolver) (hosts : List String) :
    (hosts.flatMap fun host => (resolve host).getD []) = addresses resolve hosts := by
  unfold addresses
  induction hosts with
  | nil => rfl
  | cons host hosts ih =>
    rw [List.flatMap_cons, ih]
    cases hknown : resolve host with
    | none => rw [List.filterMap_cons_none hknown, Option.getD_none, List.nil_append]
    | some l => rw [List.filterMap_cons_some hknown, Option.getD_some, List.flatten_cons]

/-- Looking up fails exactly if there is no address, and then it names all the hosts. -/
theorem endpointsOf_eq (resolve : Resolver) (hosts : List String) :
    endpointsOf resolve hosts = if addresses resolve hosts = [] then .error (.unresolvable hosts)
      else .ok (addresses resolve hosts) := by
  rw [endpointsOf, flatMap_getD_eq]
  split
  · rename_i h
    rw [if_pos h]
  · rename_i h
    rw [if_neg h]

theorem addresses_ne_nil_iff (resolve : Resolver) (hosts : List String) :
    addresses resolve hosts ≠ [] ↔ ∃ host ∈ hosts, ∃ l e, resolve host = some l ∧ e ∈ l := by
  constructor
  · intro h
    obtain ⟨e, he⟩ := List.exists_mem_of_ne_nil _ h
    obtain ⟨l, hl, he⟩ := List.mem_flatten.mp he
    obtain ⟨host, hhost, hknown⟩ := List.mem_filterMap.mp hl
    exact ⟨host, hhost, l, e, hknown, he⟩
  · rintro ⟨host, hhost, l, e, hknown, he⟩
    have hl : l ∈ hosts.filterMap resolve := List.mem_filterMap.mpr ⟨host, hhost, hknown⟩
    exact List.ne_nil_of_mem (List.mem_flatten.mpr ⟨l, hl, he⟩)

end Lookup

namespace Roster

open Lookup Sampling

variable {ρ : Type} [Source ρ]

/-- A roster that was made of a list, which may hold a member several times. -/
structure Founded (list : List Endpoint) (s : Roster ρ) : Prop where
  members : s.members.Perm list
  size : s.size = list.length
  /-- The first round hands out the list, whatever delays are asked for. -/
  round : ∀ delays : List Nanos, delays.length = s.size →
    ((s.run (delays.map Op.next)).1.filterMap Answer.endpoint?).Perm list

theorem countP_asks_next (delays : List Nanos) :
    (delays.map Op.next).countP Op.asks = delays.length := by
  rw [List.countP_eq_length.mpr, List.length_map]
  intro op hop
  obtain ⟨delay, -, rfl⟩ := List.mem_map.mp hop
  rfl

/-- A round from the first place on hands out the members in their order. -/
theorem endpoints_round {s : Roster ρ} (htargets : s.targets = []) (hcursor : s.cursor = 0)
    {delays : List Nanos} (hlength : delays.length = s.size) :
    (s.run (delays.map Op.next)).1.filterMap Answer.endpoint? = s.members := by
  have hquiet : ∀ op ∈ delays.map Op.next, op.accepted? = none := by
    intro op hop
    obtain ⟨delay, -, rfl⟩ := List.mem_map.mp hop
    rfl
  obtain ⟨hendpoints, hcount⟩ := endpoints_run htargets hquiet
  have hhanded : (s.handed (delays.map Op.next)).length = 1 * s.size := by
    rw [hcount, countP_asks_next, hlength, Nat.one_mul]
  -- the members, turned by no place, once
  rw [hendpoints, s.handed_eq_flatten hquiet hhanded, hcursor, List.rotate_zero]
  show ((s.members.zipIdx ++ []).map Prod.fst) = s.members
  rw [List.append_nil, List.zipIdx_map_fst]

/-- **A roster hands out the list that it was made of in its first round.** -/
theorem founded_ofList (random : ρ) {list : List Endpoint} (h : list ≠ []) :
    ∃ s, ofList random list = .ok s ∧ Founded list s := by
  cases list with
  | nil => exact absurd rfl h
  | cons e l =>
    refine ⟨_, rfl, ?_⟩
    have hperm : (shuffle (e :: l) random).1.Perm (e :: l) := shuffle_perm _ _
    refine ⟨hperm, hperm.length_eq, ?_⟩
    intro delays hlength
    rw [endpoints_round rfl rfl hlength]
    exact hperm

section Outcomes

variable {resolve : Resolver} {random : ρ} {text : String}

theorem ofConnectString_of_error {fault : HostFault}
    (h : ConnectString.parse text = .error fault) :
    ofConnectString resolve random text = .error fault := by
  rw [ofConnectString, h]
  rfl

theorem ofConnectString_of_ok {c : ConnectString} (h : ConnectString.parse text = .ok c) :
    ofConnectString resolve random text =
      if addresses resolve c.hosts = [] then .error (.unresolvable c.hosts)
      else ofList random (addresses resolve c.hosts) := by
  rw [ofConnectString, h]
  show (endpointsOf resolve c.hosts >>= ofList random) = _
  rw [endpointsOf_eq]
  split <;> rfl

theorem ofConnectString_eq_ok_iff {s : Roster ρ} :
    ofConnectString resolve random text = .ok s ↔
      ∃ c, ConnectString.parse text = .ok c ∧ addresses resolve c.hosts ≠ [] ∧
        ofList random (addresses resolve c.hosts) = .ok s := by
  cases hparse : ConnectString.parse text with
  | error fault => simp [ofConnectString_of_error hparse]
  | ok c =>
    rw [ofConnectString_of_ok hparse]
    by_cases hnone : addresses resolve c.hosts = [] <;> simp [hnone]

theorem ofConnectString_eq_emptyMembership_iff :
    ofConnectString resolve random text = .error .emptyMembership ↔
      ConnectString.hostsOf (ConnectString.front text) = [] := by
  cases hparse : ConnectString.parse text with
  | error fault =>
    obtain ⟨hnil, rfl⟩ := ConnectString.parse_eq_error_iff.mp hparse
    rw [ofConnectString_of_error hparse]
    exact iff_of_true rfl hnil
  | ok c =>
    obtain ⟨hne, -⟩ := ConnectString.parse_eq_ok_iff.mp hparse
    refine iff_of_false ?_ hne
    rw [ofConnectString_of_ok hparse]
    by_cases hnone : addresses resolve c.hosts = []
    · simp [hnone]
    · obtain ⟨s, hs, -⟩ := founded_ofList random hnone
      simp [hnone, hs]

theorem ofConnectString_eq_unresolvable_iff {hosts : List String} :
    ofConnectString resolve random text = .error (.unresolvable hosts) ↔
      ∃ c, ConnectString.parse text = .ok c ∧ hosts = c.hosts ∧
        addresses resolve c.hosts = [] := by
  cases hparse : ConnectString.parse text with
  | error fault =>
    obtain ⟨-, rfl⟩ := ConnectString.parse_eq_error_iff.mp hparse
    simp [ofConnectString_of_error hparse]
  | ok c =>
    rw [ofConnectString_of_ok hparse]
    by_cases hnone : addresses resolve c.hosts = []
    · rw [if_pos hnone]
      constructor
      · intro h
        exact ⟨c, rfl, (HostFault.unresolvable.inj (Except.error.inj h)).symm, hnone⟩
      · rintro ⟨c', hc', rfl, -⟩
        obtain rfl := Except.ok.inj hc'
        rfl
    · obtain ⟨s, hs, -⟩ := founded_ofList random hnone
      simp [hnone, hs]

end Outcomes

/-- **A roster is made exactly if a host that was read has an address.**
    Then its members are all the addresses of the hosts that are known, each as often as it was
    found, and its first round hands out just these.  Otherwise the fault tells why there is none:
    there are no members exactly if every field before the first slash is blank, and else the fault
    names the hosts, all of them, in order, and as they were read. -/
theorem ofConnectString_founded (resolve : Resolver) (random : ρ) (text : String) :
    ((∃ s, ofConnectString resolve random text = .ok s) ↔
      ∃ c, ConnectString.parse text = .ok c ∧
        ∃ host ∈ c.hosts, ∃ l e, resolve host = some l ∧ e ∈ l) ∧
    (∀ s, ofConnectString resolve random text = .ok s →
      ∃ c, ConnectString.parse text = .ok c ∧ Founded (addresses resolve c.hosts) s) ∧
    (ofConnectString resolve random text = .error .emptyMembership ↔
      ∀ f ∈ (ConnectString.front text).splitOn ',', ∀ c ∈ f, Text.isBlank c = true) ∧
    (∀ hosts, ofConnectString resolve random text = .error (.unresolvable hosts) ↔
      ∃ c, ConnectString.parse text = .ok c ∧ hosts = c.hosts ∧ addresses resolve c.hosts = []) ∧
    ∀ c, ConnectString.parse text = .ok c → ConnectString.Reads text c := by
  refine ⟨?_, ?_, ?_, ?_, ?_⟩
  · simp only [← addresses_ne_nil_iff]
    constructor
    · rintro ⟨s, hs⟩
      obtain ⟨c, hparse, hne, -⟩ := ofConnectString_eq_ok_iff.mp hs
      exact ⟨c, hparse, hne⟩
    · rintro ⟨c, hparse, hne⟩
      obtain ⟨s, hs, -⟩ := founded_ofList random hne
      exact ⟨s, ofConnectString_eq_ok_iff.mpr ⟨c, hparse, hne, hs⟩⟩
  · intro s hs
    obtain ⟨c, hparse, hne, hmade⟩ := ofConnectString_eq_ok_iff.mp hs
    obtain ⟨s', hs', hfounded⟩ := founded_ofList random hne
    rw [hs'] at hmade
    obtain rfl := Except.ok.inj hmade
    exact ⟨c, hparse, hfounded⟩
  · rw [← ConnectString.hostsOf_eq_nil_iff]
    exact ofConnectString_eq_emptyMembership_iff
  · exact fun hosts => ofConnectString_eq_unresolvable_iff
  · exact fun c => ConnectString.reads_of_parse

/-- A host that stands there twice, and one that is not known. -/
example :
    (ofConnectString literal (Scripted.mk [] 0) "10.0.0.1, ,nowhere,10.0.0.1:2181/app").map members =
        .ok [⟨.v4 0x0a000001, 2181⟩, ⟨.v4 0x0a000001, 2181⟩] ∧
      (ofConnectString literal (Scripted.mk [] 0) "nowhere,[x]").map members =
        .error (.unresolvable ["nowhere:2181", "[x]:2181"]) := by
  decide +kernel

end Roster

end Reconnect
