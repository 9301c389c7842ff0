import Reconnect.Endpoint

/-!
# Rebalancing an ensemble

When members join an ensemble, a share of its clients has to move so that the new members get work.
Every client decides alone, by a single draw; the chance is the share of the new ensemble that the
old members have to give up.

## Results

* `Chance.of_eq_share_iff`: a share is at stake only for a client whose host stays in an ensemble
  that has new members.
-/

namespace Reconnect

/-- How likely a client is to move. -/
inductive Chance where
  | never
  | always
  /-- The share that `kept` of `total` members give up. -/
  | share (kept total : Nat)
deriving DecidableEq, Repr

namespace Chance

/-- The chance of a client that sees `kept` old members among `total`. It moves for certain if its
own host is gone, and else it stays if no member is new. -/
def of (kept total : Nat) (retained : Bool) : Chance :=
  if !retained then always
  else if total = 0 ∨ total ≤ kept then never
  else share kept total

/-- The chance as a number. -/
def value : Chance → Float
  | never => 0.0
  | always => 1.0
  | share kept total => 1.0 - (UInt64.ofNat kept).toFloat / (UInt64.ofNat total).toFloat

/-- Whether a draw from zero up to one falls below the chance. -/
def hits (c : Chance) (draw : Float) : Bool :=
  match c with
  | never => false
  | always => true
  | share _ _ => draw < c.value

theorem of_eq_share_iff {kept total a b : Nat} {retained : Bool} :
    of kept total retained = share a b ↔
      retained = true ∧ kept < total ∧ a = kept ∧ b = total := by
  unfold of
  cases retained
  · simp
  · simp only [Bool.not_true, Bool.false_eq_true, if_false, true_and]
    split
    · simp only [reduceCtorEq, false_iff]
      omega
    · simp only [share.injEq]
      omega

end Chance

/-- What a new list of members means to a client. -/
structure MemberChange where
  /-- The client's own host is on the new list. -/
  retained : Bool
  /-- The number of places on the new list whose host was on the old one. -/
  survivors : Nat
  /-- The places on the new list whose host was not on the old one, in order. -/
  arrivals : List Endpoint
deriving DecidableEq, Repr

namespace MemberChange

/-- Compares the old members with the new ones for a client of `current`. -/
def between (old new : List Endpoint) (current : Endpoint) : MemberChange where
  retained := new.contains current
  survivors := (new.filter fun e => old.contains e).length
  arrivals := new.filter fun e => !old.contains e

/-- How likely the client is to move. -/
def chance (c : MemberChange) : Chance :=
  .of c.survivors (c.survivors + c.arrivals.length) c.retained

end MemberChange

end Reconnect
