/-!
# Time

Durations and instants are counted in nanoseconds; an instant is the time since an arbitrary start.
-/

namespace Reconnect

/-- A duration, or an instant as the duration since the start of the clock. -/
abbrev Nanos := Nat

namespace Nanos

def ofMillis (n : Nat) : Nanos := n * 1000000

def ofSecs (n : Nat) : Nanos := n * 1000000000

def millis (t : Nanos) : Nat := t / 1000000

/-- Whole milliseconds, counted in a word. -/
def millisWord (t : Nanos) : UInt64 := UInt64.ofNat t.millis

def secs (t : Nanos) : Nat := t / 1000000000

/-- What is left beside the whole seconds. -/
def subsec (t : Nanos) : Nat := t % 1000000000

theorem ofSecs_secs_add_subsec (t : Nanos) : ofSecs t.secs + t.subsec = t :=
  Nat.div_add_mod' t 1000000000

end Nanos

end Reconnect
