import Reconnect.Transport

/-!
# Streams that complete reads and writes

Such a stream reports one finished operation at a time. A cycle goes on after a write that left
nothing unwritten, so that the flush that is then due takes place in the same cycle.
-/

namespace Reconnect

/-- An operation of a stream that has ended. -/
inductive Streaming where
  /-- Bytes were read; none stand for the end of the stream. -/
  | received (data : Bytes)
  | wrote (n : Nat)
  | flushed
  | failed (fault : IoFault)
deriving DecidableEq, Repr

namespace Streaming

variable {σ : Type}

/-- What a wait can report that has a use for `send`. -/
def offered (send : Send) : Streaming → Bool
  | received _ | failed _ => true
  | wrote _ => match send with
    | .bytes _ => true
    | _ => false
  | flushed => send = .flush

/-- Bytes were read: decodes what is complete. -/
def receive [Client σ] (t : Transport σ) (data : Bytes) : Transport σ × Next :=
  if data.isEmpty then (t, .fail .peerClosed)
  else
    let processed := (t.link.heard data).process
    ({ t with link := processed.1 }, Next.finish.orFail processed.2)

/-- Bytes were written: ends the cycle if some are left. -/
def write (t : Transport σ) (n : Nat) : Transport σ × Next :=
  if n = 0 then (t, .fail Transport.stalled)
  else
    let after := { t with link := t.link.wrote n, unflushed := true }
    (after, if after.link.hasUnsent then .finish else .again)

def carry [Client σ] (t : Transport σ) : Streaming → Transport σ × Next
  | received data => receive t data
  | wrote n => write t n
  | flushed => ({ t with unflushed := false }, .finish)
  | failed fault => (t, .fail (.io fault))

instance : Backend Streaming where
  carry := carry
  flushes := true

end Streaming

end Reconnect
