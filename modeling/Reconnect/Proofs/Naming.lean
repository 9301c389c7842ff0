import Mathlib.Data.List.DropRight
import Mathlib.Data.List.Forall2
import Reconnect.Hosts.ConnectString

/-!
# What a connect string names

A connect string is read exactly, and what has been read can be written down again.  The fields
before the first slash name the hosts, and the text from there on is the path.  A host that was read
looks as if it had been written with its port and without blanks, so that a second reading changes
nothing.

## Protocol

* `Text.Trims` says what cutting off blanks leaves, `Ported` that a host comes with a port, `Names`
  what a field gives; none of them mentions how it is computed.
* A connect string is written down with commas between its hosts and the path behind them.

## Results

* `ConnectString.forall₂_hostsOf`: the hosts are what the fields that are not blank name, in order.
* `ConnectString.hostsOf_intercalate`: hosts that were read are read again from their list.
* `ConnectString.parse_reads`: **reading fails exactly if every field is blank, else gives the hosts
  and the path, and what was read is read again from what is written down.**
-/

namespace Reconnect

namespace Text

/-- A text without blanks at its ends is what is left of `f`. -/
structure Trims (f g : List Char) : Prop where
  cut : ∃ front back, f = front ++ g ++ back ∧ (∀ c ∈ front, isBlank c = true) ∧
    ∀ c ∈ back, isBlank c = true
  head : ∀ c, g.head? = some c → isBlank c = false
  last : ∀ c, g.getLast? = some c → isBlank c = false

theorem eq_false_of_head?_dropWhile {p : Char → Bool} {l : List Char} {c : Char}
    (h : (l.dropWhile p).head? = some c) : p c = false := by
  have hnot := List.head?_dropWhile_not p l
  rw [h] at hnot
  exact hnot

theorem eq_false_of_getLast?_rdropWhile {p : Char → Bool} {l : List Char} {c : Char}
    (h : (l.rdropWhile p).getLast? = some c) : p c = false := by
  rw [List.rdropWhile, List.getLast?_reverse] at h
  exact eq_false_of_head?_dropWhile h

theorem dropWhile_eq_self {p : Char → Bool} {l : List Char}
    (h : ∀ c, l.head? = some c → p c = false) : l.dropWhile p = l := by
  cases l with
  | nil => rfl
  | cons c rest => exact List.dropWhile_cons_of_neg (by simp [h c rfl])

theorem rdropWhile_eq_self {p : Char → Bool} {l : List Char}
    (h : ∀ c, l.getLast? = some c → p c = false) : l.rdropWhile p = l := by
  rw [List.rdropWhile, dropWhile_eq_self, List.reverse_reverse]
  intro c hc
  rw [List.head?_reverse] at hc
  exact h c hc

theorem trims_trim (f : List Char) : Trims f (trim f) := by
  have htrim : trim f = (f.dropWhile isBlank).rdropWhile isBlank := rfl
  refine ⟨⟨f.takeWhile isBlank, (f.dropWhile isBlank).rtakeWhile isBlank, ?_, ?_, ?_⟩, ?_, ?_⟩
  · rw [htrim, List.append_assoc, List.rdropWhile_append_rtakeWhile,
      List.takeWhile_append_dropWhile]
  · intro c hc
    exact List.mem_takeWhile_imp hc
  · intro c hc
    exact List.mem_rtakeWhile_imp hc
  · intro c hc
    obtain ⟨back, hback⟩ := List.rdropWhile_prefix isBlank (f.dropWhile isBlank)
    refine eq_false_of_head?_dropWhile (l := f) ?_
    rw [← hback, ← htrim, List.head?_append, hc]
    rfl
  · intro c hc
    exact eq_false_of_getLast?_rdropWhile hc

/-- A text without blanks at its ends is not changed. -/
theorem Trims.trim_eq {f g : List Char} (h : Trims f g) : trim g = g := by
  rw [trim, dropWhile_eq_self h.head]
  exact rdropWhile_eq_self h.last

theorem Trims.refl {f g : List Char} (h : Trims f g) : Trims g g where
  cut := ⟨[], [], by simp, by simp, by simp⟩
  head := h.head
  last := h.last

end Text

namespace ConnectString

open Text

/-! ## Ports -/

/-- A host comes with a port: a colon stands after the last closing bracket, or anywhere if there is
none. -/
def Ported (host : List Char) : Prop := ∃ front back, host = front ++ ':' :: back ∧ ']' ∉ back

theorem hasPort_iff (host : List Char) : hasPort host = true ↔ Ported host := by
  have hafter : afterBracket host = host.rtakeWhile (· ≠ ']') := rfl
  rw [hasPort, List.any_eq_true, hafter]
  constructor
  · rintro ⟨c, hc, hcolon⟩
    obtain rfl : c = ':' := of_decide_eq_true hcolon
    obtain ⟨early, back, hsplit⟩ := List.append_of_mem hc
    refine ⟨host.rdropWhile (· ≠ ']') ++ early, back, ?_, ?_⟩
    · rw [List.append_assoc, ← hsplit, List.rdropWhile_append_rtakeWhile]
    · intro hbracket
      have hmem : ']' ∈ host.rtakeWhile (· ≠ ']') := by
        rw [hsplit]
        exact List.mem_append_right early (List.mem_cons_of_mem _ hbracket)
      simpa using List.mem_rtakeWhile_imp hmem
  · rintro ⟨front, back, rfl, hback⟩
    refine ⟨':', ?_, decide_eq_true rfl⟩
    have hopen : ∀ c ∈ back.reverse, decide (c ≠ ']') = true := by
      intro c hc
      refine decide_eq_true ?_
      rintro rfl
      exact hback (List.mem_reverse.mp hc)
    rw [List.rtakeWhile, List.mem_reverse, List.reverse_append, List.reverse_cons,
      List.append_assoc, List.takeWhile_append_of_pos hopen]
    exact List.mem_append_right _ List.mem_cons_self

theorem ported_withPort (host : List Char) : Ported (withPort host) := by
  rw [withPort]
  split
  · rename_i h
    exact (hasPort_iff host).mp h
  · exact ⟨host, "2181".toList, rfl, by decide⟩

theorem withPort_of_ported {host : List Char} (h : Ported host) : withPort host = host :=
  if_pos ((hasPort_iff host).mpr h)

/-! ## Fields and hosts -/

/-- What a field names that is not blank. -/
inductive Names (field : List Char) : List Char → Prop where
  | asIs {bare : List Char} : Trims field bare → Ported bare → Names field bare
  | completed {bare : List Char} : Trims field bare → ¬Ported bare → Names field (bare ++ defaultPort)

/-- A host as it is when it was read. -/
structure IsHost (host : List Char) : Prop where
  nonempty : host ≠ []
  trimmed : Trims host host
  no_comma : ',' ∉ host
  no_slash : '/' ∉ host
  ported : Ported host

/-- The text before the first slash. -/
def front (s : String) : List Char := s.toList.takeWhile (· ≠ '/')

/-- The fields before the first slash that are not blank. -/
def named (s : String) : List (List Char) :=
  ((front s).splitOn ',').filter fun f => !f.all isBlank

/-- The fields are those of the library. -/
theorem fields_eq_splitOn (text : List Char) : fields text = text.splitOn ',' := by
  induction text with
  | nil => rfl
  | cons c rest ih =>
    rw [fields, ih, List.splitOn, List.splitOn, List.splitOnP_cons_eq_if_modifyHead]
    by_cases hc : c = ','
    · rw [if_pos hc, if_pos (beq_iff_eq.mpr hc)]
    · rw [if_neg hc, if_neg (by simpa using hc)]
      cases hrest : List.splitOnP (· == ',') rest with
      | nil => exact absurd hrest (List.splitOnP_ne_nil _ rest)
      | cons f more => rfl

theorem names_trim (f : List Char) : Names f (withPort (trim f)) := by
  have htrims := trims_trim f
  by_cases hport : Ported (trim f)
  · rw [withPort_of_ported hport]
    exact .asIs htrims hport
  · have hwith : withPort (trim f) = trim f ++ defaultPort :=
      if_neg fun h => hport ((hasPort_iff _).mp h)
    rw [hwith]
    exact .completed htrims hport

/-- The hosts come from the fields that are not blank, one from each. -/
theorem hostsOf_eq_map (text : List Char) :
    hostsOf text = ((text.splitOn ',').filter fun f => !f.all isBlank).map
      fun f => withPort (trim f) := by
  have hblank (f : List Char) : decide (trim f ≠ []) = !f.all isBlank := by
    rw [Bool.eq_iff_iff]
    simp [trim_eq_nil_iff]
  rw [hostsOf, fields_eq_splitOn, List.filter_map, List.map_map]
  have hfilter : ((fun f => decide (f ≠ [])) ∘ trim) = fun f : List Char => !f.all isBlank :=
    funext hblank
  rw [hfilter]
  rfl

/-- **The hosts are what the fields that are not blank name, in order.** -/
theorem forall₂_hostsOf (s : String) : List.Forall₂ Names (named s) (hostsOf (front s)) := by
  rw [hostsOf_eq_map, named, List.forall₂_map_right_iff, List.forall₂_same]
  intro f _
  exact names_trim f

theorem hostsOf_eq_nil_iff (text : List Char) :
    hostsOf text = [] ↔ ∀ f ∈ text.splitOn ',', ∀ c ∈ f, isBlank c = true := by
  rw [hostsOf_eq_map, List.map_eq_nil_iff, List.filter_eq_nil_iff]
  simp

theorem trims_withPort {bare : List Char} (hne : bare ≠ []) (h : Trims bare bare) :
    Trims (withPort bare) (withPort bare) := by
  rw [withPort]
  split
  · exact h
  · refine ⟨⟨[], [], by simp, by simp, by simp⟩, ?_, ?_⟩
    · intro c hc
      rw [List.head?_append_of_ne_nil _ hne] at hc
      exact h.head c hc
    · intro c hc
      rw [List.getLast?_append] at hc
      obtain rfl : '1' = c := Option.some.inj hc
      decide

/-- What stands in a list with commas stands in one of its parts. -/
theorem mem_intercalate_iff {c : Char} (hc : c ≠ ',') (parts : List (List Char)) :
    c ∈ [','].intercalate parts ↔ ∃ part ∈ parts, c ∈ part := by
  induction parts with
  | nil => simp
  | cons part parts ih =>
    cases parts with
    | nil => simp
    | cons next parts =>
      rw [List.intercalate_cons_cons, List.mem_append, List.mem_append, ih, List.mem_singleton]
      simp [hc]

theorem mem_trim {f : List Char} {c : Char} (h : c ∈ trim f) : c ∈ f := by
  obtain ⟨early, late, hf, -⟩ := (trims_trim f).cut
  rw [hf]
  exact List.mem_append_left _ (List.mem_append_right _ h)

theorem mem_withPort {bare : List Char} {c : Char} (h : c ∈ withPort bare) :
    c ∈ bare ∨ c ∈ defaultPort := by
  rw [withPort] at h
  split at h
  · exact .inl h
  · exact List.mem_append.mp h

theorem withPort_ne_nil {bare : List Char} (h : bare ≠ []) : withPort bare ≠ [] := by
  rw [withPort]
  split
  · exact h
  · exact List.append_ne_nil_of_left_ne_nil h _

theorem isHost_of_mem {text host : List Char} (hslash : '/' ∉ text) (h : host ∈ hostsOf text) :
    IsHost host := by
  rw [hostsOf, List.mem_map] at h
  obtain ⟨bare, hbare, rfl⟩ := h
  rw [List.mem_filter, List.mem_map] at hbare
  obtain ⟨⟨f, hf, rfl⟩, hne⟩ := hbare
  have hne : trim f ≠ [] := of_decide_eq_true hne
  -- a separator in a host would stand in its field, for the default port holds none
  have hfield (c : Char) (hport : c ∉ defaultPort) (hc : c ∈ withPort (trim f)) : c ∈ f :=
    mem_trim ((mem_withPort hc).resolve_right hport)
  refine ⟨withPort_ne_nil hne, trims_withPort hne (trims_trim f).refl, ?_, ?_, ported_withPort _⟩
  · intro hcomma
    exact not_mem_fields hf (hfield ',' (by decide) hcomma)
  · intro hs
    rw [fields_eq_splitOn] at hf
    have htext := (mem_intercalate_iff (c := '/') (by decide) (text.splitOn ',')).mpr
      ⟨f, hf, hfield '/' (by decide) hs⟩
    rw [List.intercalate_splitOn] at htext
    exact hslash htext

theorem map_eq_self {α : Type} {f : α → α} {l : List α} (h : ∀ a ∈ l, f a = a) : l.map f = l :=
  (List.map_congr_left h).trans (List.map_id l)

/-- **Hosts that were read are read again from their list.** -/
theorem hostsOf_intercalate {hosts : List (List Char)} (hne : hosts ≠ [])
    (h : ∀ host ∈ hosts, IsHost host) : hostsOf ([','].intercalate hosts) = hosts := by
  have hfields : fields ([','].intercalate hosts) = hosts := by
    rw [fields_eq_splitOn]
    exact List.splitOn_intercalate ',' (fun host hhost => (h host hhost).no_comma) hne
  have htrim : hosts.map trim = hosts :=
    map_eq_self fun host hhost => (h host hhost).trimmed.trim_eq
  have hfilter : hosts.filter (· ≠ []) = hosts :=
    List.filter_eq_self.mpr fun host hhost => decide_eq_true (h host hhost).nonempty
  have hports : hosts.map withPort = hosts :=
    map_eq_self fun host hhost => withPort_of_ported (h host hhost).ported
  rw [hostsOf, hfields, htrim, hfilter, hports]

/-! ## The path -/

theorem pathOf_append_slashes (text : List Char) :
    ∃ n, text = pathOf text ++ List.replicate n '/' := by
  have hpath : pathOf text = text.rdropWhile (· = '/') := rfl
  have hslashes : text.rtakeWhile (· = '/') =
      List.replicate (text.rtakeWhile (· = '/')).length '/' :=
    List.eq_replicate_of_mem fun c hc => by simpa using List.mem_rtakeWhile_imp hc
  refine ⟨(text.rtakeWhile (· = '/')).length, ?_⟩
  rw [hpath, ← hslashes, List.rdropWhile_append_rtakeWhile]

theorem getLast?_pathOf (text : List Char) : (pathOf text).getLast? ≠ some '/' := by
  intro hlast
  have hnot := eq_false_of_getLast?_rdropWhile (p := (· = '/')) hlast
  exact of_decide_eq_false hnot rfl

theorem pathOf_eq_self {path : List Char} (h : path.getLast? ≠ some '/') :
    pathOf path = path := by
  refine rdropWhile_eq_self (p := (· = '/')) ?_
  intro c hc
  refine decide_eq_false ?_
  rintro rfl
  exact h hc

/-- A path begins with a slash. -/
theorem head?_pathOf {text : List Char} {c : Char}
    (h : (pathOf (text.dropWhile (· ≠ '/'))).head? = some c) : c = '/' := by
  obtain ⟨n, hn⟩ := pathOf_append_slashes (text.dropWhile (· ≠ '/'))
  have hnot : decide (c ≠ '/') = false := by
    refine eq_false_of_head?_dropWhile (p := (· ≠ '/')) (l := text) ?_
    rw [hn, List.head?_append, h]
    rfl
  simpa using hnot

/-- The first slash of a text is that of its path. -/
theorem cut_append_path {hosts path : List Char} (hhosts : '/' ∉ hosts)
    (hpath : ∀ c, path.head? = some c → c = '/') :
    (hosts ++ path).takeWhile (· ≠ '/') = hosts ∧ (hosts ++ path).dropWhile (· ≠ '/') = path := by
  have hall : ∀ c ∈ hosts, decide (c ≠ '/') = true := by
    intro c hc
    refine decide_eq_true ?_
    rintro rfl
    exact hhosts hc
  rw [List.takeWhile_append_of_pos hall, List.dropWhile_append_of_pos hall]
  cases path with
  | nil => exact ⟨List.append_nil _, rfl⟩
  | cons c rest =>
    obtain rfl := hpath c rfl
    exact ⟨List.append_nil _, rfl⟩

/-! ## Reading -/

/-- What `s` says, read as `c`. -/
structure Reads (s : String) (c : ConnectString) : Prop where
  /-- Every field that is not blank names a host, in order. -/
  hosts : List.Forall₂ Names (named s) (c.hosts.map String.toList)
  /-- The path is the text from the first slash, … -/
  path : ∃ n, s.toList.dropWhile (· ≠ '/') =
    (c.chroot.getD "").toList ++ List.replicate n '/'
  /-- … without the slashes at its end, … -/
  stripped : (c.chroot.getD "").toList.getLast? ≠ some '/'
  /-- … and there is none if nothing is left. -/
  present : c.chroot ≠ some ""
  /-- What was read is as it is when it was read. -/
  settled : ∀ host ∈ c.hosts, IsHost host.toList

/-- The connect string written down again. -/
def written (c : ConnectString) : String := ",".intercalate c.hosts ++ c.chroot.getD ""

/-- What is read from the text before the first slash and from the text after it. -/
def assemble (hosts : List (List Char)) (path : List Char) : ConnectString where
  hosts := hosts.map String.ofList
  chroot := if path = [] then none else some (String.ofList path)

theorem parse_eq (s : String) :
    parse s = if hostsOf (front s) = [] then .error .emptyMembership
      else .ok (assemble (hostsOf (front s)) (pathOf (s.toList.dropWhile (· ≠ '/')))) := by
  rw [parse, ← front]
  split
  · rename_i h
    rw [if_pos h]
  · rename_i h
    rw [if_neg h]
    rfl

theorem toList_hosts_assemble (hosts : List (List Char)) (path : List Char) :
    (assemble hosts path).hosts.map String.toList = hosts := by
  rw [assemble, List.map_map]
  exact map_eq_self fun host _ => String.toList_ofList

theorem toList_chroot_assemble (hosts : List (List Char)) (path : List Char) :
    ((assemble hosts path).chroot.getD "").toList = path := by
  rw [assemble]
  cases path with
  | nil => rfl
  | cons c rest => exact String.toList_ofList

theorem slash_notMem_front (s : String) : '/' ∉ front s := by
  intro h
  simpa using List.mem_takeWhile_imp h

theorem isHost_of_mem_front {s : String} {host : List Char} (h : host ∈ hostsOf (front s)) :
    IsHost host := isHost_of_mem (slash_notMem_front s) h

theorem reads_assemble (s : String) :
    Reads s (assemble (hostsOf (front s)) (pathOf (s.toList.dropWhile (· ≠ '/')))) where
  hosts := by
    rw [toList_hosts_assemble]
    exact forall₂_hostsOf s
  path := by
    rw [toList_chroot_assemble]
    exact pathOf_append_slashes _
  stripped := by
    rw [toList_chroot_assemble]
    exact getLast?_pathOf _
  present := by
    rw [assemble]
    split
    · simp
    · rename_i hpath
      simpa [← String.toList_eq_nil_iff] using hpath
  settled := by
    intro host hhost
    obtain ⟨text, htext, rfl⟩ := List.mem_map.mp hhost
    rw [String.toList_ofList]
    exact isHost_of_mem_front htext

/-- **What was read is read again from what is written down.** -/
theorem parse_written {s : String} (hne : hostsOf (front s) ≠ []) :
    parse (assemble (hostsOf (front s)) (pathOf (s.toList.dropWhile (· ≠ '/')))).written =
      .ok (assemble (hostsOf (front s)) (pathOf (s.toList.dropWhile (· ≠ '/')))) := by
  have hhosts : ∀ host ∈ hostsOf (front s), IsHost host := fun _ => isHost_of_mem_front
  have hlast := getLast?_pathOf (s.toList.dropWhile (· ≠ '/'))
  have hhead : ∀ c, (pathOf (s.toList.dropWhile (· ≠ '/'))).head? = some c → c = '/' :=
    fun _ => head?_pathOf
  generalize hostsOf (front s) = hosts at hne hhosts ⊢
  generalize pathOf (s.toList.dropWhile (· ≠ '/')) = path at hlast hhead ⊢
  have htext : (assemble hosts path).written.toList = [','].intercalate hosts ++ path := by
    rw [written, String.toList_append, String.toList_intercalate, toList_hosts_assemble,
      toList_chroot_assemble]
    rfl
  have hslash : '/' ∉ [','].intercalate hosts := by
    rw [mem_intercalate_iff (by decide)]
    rintro ⟨host, hhost, hmem⟩
    exact (hhosts host hhost).no_slash hmem
  obtain ⟨hbefore, hafter⟩ := cut_append_path hslash hhead
  have hagain : hostsOf (front (assemble hosts path).written) = hosts := by
    rw [front, htext, hbefore]
    exact hostsOf_intercalate hne hhosts
  rw [parse_eq, hagain, if_neg hne, htext, hafter, pathOf_eq_self hlast]

theorem parse_eq_error_iff {s : String} {fault : HostFault} :
    parse s = .error fault ↔ hostsOf (front s) = [] ∧ fault = .emptyMembership := by
  rw [parse_eq]
  split
  · rename_i h
    simp [h, eq_comm]
  · rename_i h
    simp [h]

theorem parse_eq_ok_iff {s : String} {c : ConnectString} :
    parse s = .ok c ↔ hostsOf (front s) ≠ [] ∧
      c = assemble (hostsOf (front s)) (pathOf (s.toList.dropWhile (· ≠ '/'))) := by
  rw [parse_eq]
  split
  · rename_i h
    simp [h]
  · rename_i h
    simp [h, eq_comm]

theorem reads_of_parse {s : String} {c : ConnectString} (h : parse s = .ok c) : Reads s c := by
  obtain ⟨-, rfl⟩ := parse_eq_ok_iff.mp h
  exact reads_assemble s

/-- **A connect string is read exactly, and what was read is read again.**
    Reading fails, with the fault that says that there are no members, exactly if every field before
    the first slash is blank.  Otherwise the hosts are what the other fields name, in order, and the
    path is the text from the first slash without the slashes at its end; every host comes with a
    port and without blanks at its ends, commas and slashes; and reading what is written down gives
    the same hosts and the same path. -/
theorem parse_reads (s : String) :
    (parse s = .error .emptyMembership ↔
      ∀ f ∈ (front s).splitOn ',', ∀ c ∈ f, isBlank c = true) ∧
    (∀ fault, parse s = .error fault → fault = .emptyMembership) ∧
    ∀ c, parse s = .ok c → Reads s c ∧ c.hosts ≠ [] ∧ parse c.written = .ok c := by
  refine ⟨?_, ?_, ?_⟩
  · rw [parse_eq_error_iff, ← hostsOf_eq_nil_iff]
    exact and_iff_left rfl
  · intro fault h
    exact (parse_eq_error_iff.mp h).2
  · intro c h
    refine ⟨reads_of_parse h, ?_, ?_⟩
    · obtain ⟨hne, rfl⟩ := parse_eq_ok_iff.mp h
      exact fun hnil => hne (List.map_eq_nil_iff.mp hnil)
    · obtain ⟨hne, rfl⟩ := parse_eq_ok_iff.mp h
      exact parse_written hne

/-- Blanks, an address with brackets, a field without anything, and slashes. -/
example : parse " [::1] ,,a:1//b/" =
    .ok { hosts := ["[::1]:2181", "a:1"], chroot := some "//b" } := by decide +kernel

end ConnectString

end Reconnect
