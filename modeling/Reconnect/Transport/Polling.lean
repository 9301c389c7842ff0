import Reconnect.Transport.Streaming

/-!
# Streams that report readiness

Such a stream says that it can be read or written. The cycle then reads once and writes until the
stream has no more room, and is done.
-/

namespace Reconnect

/-- The outcome of a call that does not wait. -/
inductive Attempt (α : Type) where
  | done (result : α)
  | blocked
  | failed (fault : IoFault)
deriving DecidableEq, Repr

/-- What a stream is ready for, and the outcomes of the calls that follow. -/
inductive Polling where
  /-- The stream cannot say. -/
  | failed (fault : IoFault)
  /-- What comes of reading and of writing, each if the stream is ready for it. Calls for which no
  outcome is given find no room. -/
  | ready (read : Option (Attempt Bytes)) (writes : Option (List (Attempt Nat)))
deriving DecidableEq, Repr

namespace Polling

variable {σ : Type}

def read [Client σ] (t : Transport σ) : Attempt Bytes → Transport σ × Option Fault
  | .blocked => (t, none)
  | .failed fault => (t, some (.io fault))
  | .done data =>
    if data.isEmpty then (t, some .peerClosed)
    else
      let processed := (t.link.heard data).process
      ({ t with link := processed.1 }, processed.2)

/-- Writes until nothing is left or the stream has no more room. -/
def write (t : Transport σ) : List (Attempt Nat) → Transport σ × Option Fault
  | [] => (t, none)
  | outcome :: outcomes =>
    if t.link.hasUnsent then
      match outcome with
      | .blocked => (t, none)
      | .failed fault => (t, some (.io fault))
      | .done 0 => (t, some Transport.stalled)
      | .done n => write { t with link := t.link.wrote n } outcomes
    else (t, none)

/-- Reads if the stream is ready for it, then fills and writes if it is ready for that. -/
def carry [Client σ] (t : Transport σ) : Polling → Transport σ × Next
  | failed fault => (t, .fail (.io fault))
  | ready reading writing =>
    let afterRead := match reading with
      | none => (t, none)
      | some outcome => read t outcome
    match afterRead.2, writing with
    | some fault, _ => (afterRead.1, .fail fault)
    | none, none => (afterRead.1, .finish)
    | none, some outcomes =>
      let written := write { afterRead.1 with link := afterRead.1.link.fill } outcomes
      (written.1, Next.finish.orFail written.2)

instance : Backend Polling where
  carry := carry
  flushes := false

end Polling

end Reconnect
