import Reconnect.Packet.Queue

/-!
# The control of a transport

What everybody who holds on to a transport may do to it while it waits: queue packets, ask it to
stop, close and open the gate for application traffic, and wake it. A wake-up that finds nobody
waiting is kept for the next wait.

## Results

* `Control.closing_runActions_iff`: only closing asks for a stop, and it is never taken back.
-/

namespace Reconnect

/-- The part of a transport that is shared with its producers. -/
structure Control where
  queue : Queue := []
  closing : Bool := false
  /-- An authentication exchange is under way, so application packets wait. -/
  authPending : Bool := false
  /-- The session on the current connection is set up. -/
  primed : Bool := false
  /-- A wake-up is kept for the next wait. -/
  woken : Bool := false
deriving DecidableEq, Repr

namespace Control

/-- What a holder of the control may do. -/
inductive Action where
  | pushBack (p : Packet)
  | pushFront (p : Packet)
  /-- Appends a packet to the queue and wakes the transport. -/
  | submit (p : Packet)
  | wake
  | close
  /-- Closes the gate for application traffic. -/
  | beginAuth
  /-- Opens the gate for application traffic. -/
  | endAuth
  | prime
deriving DecidableEq, Repr

/-- Applies one action. Packets that are only queued wake nobody. -/
def act (c : Control) : Action → Control
  | .pushBack p => { c with queue := c.queue ++ [p] }
  | .pushFront p => { c with queue := p :: c.queue }
  | .submit p => { c with queue := c.queue ++ [p], woken := true }
  | .wake => { c with woken := true }
  | .close => { c with closing := true, woken := true }
  | .beginAuth => { c with authPending := true }
  | .endAuth => { c with authPending := false, woken := true }
  | .prime => { c with primed := true, woken := true }

def runActions (c : Control) (actions : List Action) : Control := actions.foldl act c

/-- The flags at the start of a connection. -/
def restart (c : Control) (authRequired : Bool) : Control :=
  { c with primed := false, authPending := authRequired }

/-- Packets come back to the front of the queue, in their order. -/
def requeue (c : Control) (packets : List Packet) : Control :=
  { c with queue := packets ++ c.queue }

@[simp] theorem runActions_nil (c : Control) : c.runActions [] = c := rfl

@[simp] theorem runActions_cons (c : Control) (a : Action) (l : List Action) :
    c.runActions (a :: l) = (c.act a).runActions l := rfl

theorem closing_act_iff (c : Control) (a : Action) :
    (c.act a).closing = true ↔ c.closing = true ∨ a = .close := by
  cases a <;> simp [act]

/-- The flag is up if it was up before or one of the actions puts it up. -/
theorem closing_runActions_iff (c : Control) (actions : List Action) :
    (c.runActions actions).closing = true ↔ c.closing = true ∨ .close ∈ actions := by
  induction actions generalizing c with
  | nil => simp
  | cons a actions ih =>
    rw [runActions_cons, ih, closing_act_iff, List.mem_cons, or_assoc, eq_comm (a := a)]

end Control

end Reconnect
