import Reconnect.Clock
import Reconnect.Hosts.ConnectString
import Reconnect.Hosts.Lookup
import Reconnect.Hosts.Migration
import Reconnect.Sampling

/-!
# Rosters

A roster hands out the members of an ensemble one after the other, for ever, in an order drawn at
random so that clients of one connect string spread over the ensemble. A client that was chosen to
move to new members gets those first. After every full round without a connection the caller is
told to spin, that is, to wait before it goes on.

## Results

* `Roster.Answer` and `Roster.step`: every use of a roster as a total step, so that runs can be
  talked about.
-/

namespace Reconnect

open Sampling

/-- The members of an ensemble and the place of its client among them. -/
structure Roster (ρ : Type) where
  /-- The members in the order of the rounds. -/
  members : List Endpoint
  /-- The place that is handed out next. -/
  cursor : Nat
  /-- The place of the member handed out last, or of the one that the client is said to be
  connected to. -/
  slot : Option Nat
  /-- The number of places handed out since the last full round or connection. -/
  handedOut : Nat
  /-- New members that are handed out ahead of the round. -/
  targets : List Endpoint
  /-- The source of the random order. -/
  random : ρ
  /-- The cursor stands at a member. -/
  cursor_lt : cursor < members.length
deriving DecidableEq, Repr

/-- One member, handed out. -/
structure Turn where
  endpoint : Endpoint
  /-- The caller has to wait before it goes on. -/
  spin : Bool
deriving DecidableEq, Repr

/-- The delay as the caller is told about it, if it has to wait: in milliseconds that count around a
word. -/
def Turn.notice (t : Turn) (delay : Nanos) : Option UInt64 :=
  if t.spin then some delay.millisWord else none

/-- What an update of the members comes to. -/
inductive Update where
  /-- The new list is not accepted. -/
  | rejected (fault : HostFault)
  /-- The client keeps its connection. -/
  | stay
  /-- The client should give up its connection and go on with the next member. -/
  | migrate
deriving DecidableEq, Repr

namespace Roster

variable {ρ : Type}

def size (s : Roster ρ) : Nat := s.members.length

theorem size_pos (s : Roster ρ) : 0 < s.size := Nat.lt_of_le_of_lt (Nat.zero_le _) s.cursor_lt

/-- The place after `i`, around the end. -/
def after (s : Roster ρ) (i : Nat) : Nat := (i + 1) % s.size

theorem after_lt (s : Roster ρ) (i : Nat) : s.after i < s.members.length := Nat.mod_lt _ s.size_pos

def atCursor (s : Roster ρ) : Endpoint := s.members.get ⟨s.cursor, s.cursor_lt⟩

/-- The member handed out last, or the one that the client is said to be connected to. -/
def current (s : Roster ρ) : Option Endpoint := s.slot.bind fun i => s.members[i]?

/-- Moves the cursor on and counts the place. -/
def moveOn (s : Roster ρ) : Roster ρ :=
  { s with
    cursor := s.after s.cursor
    slot := some s.cursor
    handedOut := if s.size ≤ s.handedOut + 1 then 0 else s.handedOut + 1
    cursor_lt := s.after_lt s.cursor }

/-- Hands out the next member: a target if there is one, else the one at the cursor. The last place
of a round makes the caller spin unless `delay` is zero. -/
def next (s : Roster ρ) (delay : Nanos) : Turn × Roster ρ :=
  match s.targets with
  | e :: targets =>
    ({ endpoint := e, spin := false },
      { s with targets, slot := s.members.idxOf? e })
  | [] =>
    ({ endpoint := s.atCursor, spin := s.size ≤ s.handedOut + 1 ∧ delay ≠ 0 }, s.moveOn)

/-- The member handed out last is connected: no targets are left, and a new round is counted. -/
def connected (s : Roster ρ) : Roster ρ := { s with handedOut := 0, targets := [] }

variable [Source ρ]

/-- The members of an ensemble in a random order. -/
def ofList (random : ρ) : List Endpoint → Except HostFault (Roster ρ)
  | [] => .error .emptyMembership
  | e :: l =>
    let shuffled := shuffle (e :: l) random
    .ok {
      members := shuffled.1
      cursor := 0
      slot := none
      handedOut := 0
      targets := []
      random := shuffled.2
      cursor_lt := by rw [length_shuffle]; exact Nat.zero_lt_succ _ }

/-- The hosts of a connect string, in a random order. -/
def ofConnectString (resolve : Lookup.Resolver) (random : ρ) (s : String) :
    Except HostFault (Roster ρ) := do
  let parsed ← ConnectString.parse s
  let endpoints ← Lookup.endpointsOf resolve parsed.hosts
  ofList random endpoints

/-- Where the round of `size` places goes on: behind the place of the client's own member, or at a
random place if it has none. -/
def resume (size : Nat) (slot : Option Nat) (random : ρ) : Nat × ρ :=
  match slot with
  | some i => ((i + 1) % size, random)
  | none => below64 size random

theorem resume_lt {size : Nat} (h : 0 < size) (slot : Option Nat) (random : ρ) :
    (resume size slot random).1 < size := by
  cases slot with
  | some i => exact Nat.mod_lt _ h
  | none => exact below64_lt h random

theorem resume_shuffle_lt {new : List Endpoint} (h : new ≠ []) (slot : Option Nat) (random : ρ) :
    (resume (shuffle new random).1.length slot (shuffle new random).2).1 <
      (shuffle new random).1.length :=
  resume_lt (by rw [length_shuffle]; exact List.length_pos_iff.mpr h) _ _

/-- Takes a new list of members, which is not empty. A client that should move gets the arrivals
first if its own member is retained. -/
def replace (s : Roster ρ) (new : List Endpoint) (h : new ≠ []) (current : Endpoint) :
    Update × Roster ρ :=
  let change := MemberChange.between s.members new current
  let drawn := unit s.random
  let migrate := change.chance.hits drawn.1
  let shuffled := shuffle new drawn.2
  let slot := shuffled.1.idxOf? current
  let place := resume shuffled.1.length slot shuffled.2
  let targets :=
    if migrate && change.retained then shuffle change.arrivals place.2 else ([], place.2)
  (if migrate then .migrate else .stay,
    { members := shuffled.1
      cursor := place.1
      slot
      handedOut := 0
      targets := targets.1
      random := targets.2
      cursor_lt := resume_shuffle_lt h slot drawn.2 })

/-- Replaces the members, for a client that is connected to `current`. An empty list is not
accepted and changes nothing. -/
def update (s : Roster ρ) (new : List Endpoint) (current : Endpoint) : Update × Roster ρ :=
  if h : new = [] then (.rejected .emptyMembership, s) else s.replace new h current

/-- A use of a roster. -/
inductive Op where
  | next (delay : Nanos)
  | connected
  | update (new : List Endpoint) (current : Endpoint)
deriving DecidableEq, Repr

/-- What a use of a roster answers. -/
inductive Answer where
  | turn (t : Turn)
  | none
  | updated (u : Update)
deriving DecidableEq, Repr

def step (s : Roster ρ) : Op → Answer × Roster ρ
  | .next delay => (.turn (s.next delay).1, (s.next delay).2)
  | .connected => (.none, s.connected)
  | .update new current => (.updated (s.update new current).1, (s.update new current).2)

/-- The answers of a list of uses, in order, and the set after them. -/
def run (s : Roster ρ) : List Op → List Answer × Roster ρ
  | [] => ([], s)
  | op :: ops =>
    let first := s.step op
    let others := run first.2 ops
    (first.1 :: others.1, others.2)

end Roster

end Reconnect
