import Reconnect.Clock

/-!
# Settings of a transport

The limits and time bounds that a transport works under. Settings are built from the defaults by a
list of changes; the drain limit given by a change is raised to at least one, so that a connection
with something to send always gets on.
-/

namespace Reconnect

/-- The limits and time bounds that a transport works under. -/
structure Settings where
  /-- Every frame is shorter than this. -/
  frameLimit : Nat := 4194304
  /-- How long a connection attempt may take. -/
  connectTimeout : Nanos := Nanos.ofSecs 10
  /-- How long a packet sent out of band may take. -/
  sendTimeout : Nanos := Nanos.ofSecs 10
  /-- The number of frames up to which the outbound buffer is filled from the queue. -/
  drainLimit : Nat := 64
  /-- Application packets wait until an authentication exchange has ended. -/
  authRequired : Bool := false
deriving DecidableEq, Repr

namespace Settings

/-- A change of one setting. -/
inductive Change where
  | frameLimit (n : Nat)
  | connectTimeout (t : Nanos)
  | sendTimeout (t : Nanos)
  | drainLimit (n : Nat)
  /-- The drain limit as given, with no lower bound. -/
  | rawDrainLimit (n : Nat)
  | authRequired (b : Bool)
deriving DecidableEq, Repr

def apply (s : Settings) : Change → Settings
  | .frameLimit n => { s with frameLimit := n }
  | .connectTimeout t => { s with connectTimeout := t }
  | .sendTimeout t => { s with sendTimeout := t }
  | .drainLimit n => { s with drainLimit := max n 1 }
  | .rawDrainLimit n => { s with drainLimit := n }
  | .authRequired b => { s with authRequired := b }

/-- The settings that a list of changes makes of the defaults. -/
def ofChanges (changes : List Change) : Settings := changes.foldl apply {}

/-- Unless the drain limit is set as given, it is at least one. -/
theorem drainLimit_pos_of_apply {s : Settings} {c : Change} (hs : 0 < s.drainLimit)
    (hc : ∀ n, c ≠ .rawDrainLimit n) : 0 < (s.apply c).drainLimit := by
  cases c with
  | drainLimit n => exact Nat.lt_of_lt_of_le Nat.zero_lt_one (Nat.le_max_right n 1)
  | rawDrainLimit n => exact absurd rfl (hc n)
  | _ => exact hs

end Settings

/-- How long a session outlives the connection, where no other time is asked for. -/
def usualTimeout : Nanos := Nanos.ofSecs 30

/-- The room that a read is sure to find behind the bytes that wait to be decoded. -/
def readCapacity : Nat := 16384

end Reconnect
