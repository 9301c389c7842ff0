import Reconnect.Link

/-!
# Runs of a link

The operations on a link as data, so that all that a transport and the holders of its control can do
to a link, in any order, is a list.

## Results

* `Link.run_append`: a run in two parts.
* `Link.counted_run`: the block of memory goes on counting the bytes of the inbox.
-/

namespace Reconnect.Link

variable {σ : Type}

/-- An operation on a link. -/
inductive Op where
  | connect (e : Endpoint)
  | established (localEnd : Option Endpoint) (now : Nanos)
  | makeRoom
  | heard (data : Bytes)
  | process
  | fill
  | pushAhead (p : Packet)
  | wrote (n : Nat)
  | handOver
  | reset
  | close
  | tick (now : Nanos)
  /-- The holders of the control act. -/
  | steer (actions : List Control.Action)
  /-- A kept wake-up is used up. -/
  | calm
  | abandonPending
deriving DecidableEq, Repr

def step [Client σ] (l : Link σ) : Op → Link σ × Option Fault
  | .connect e => l.connect e
  | .established localEnd now => l.established localEnd now
  | .makeRoom => (l.makeRoom, none)
  | .heard data => (l.heard data, none)
  | .process => l.process
  | .fill => (l.fill, none)
  | .pushAhead p => (l.pushAhead p, none)
  | .wrote n => (l.wrote n, none)
  | .handOver => (l.handOver, none)
  | .reset => (l.reset, none)
  | .close => (l.close, none)
  | .tick now => (l.tick now, none)
  | .steer actions => (l.steer actions, none)
  | .calm => (l.calm, none)
  | .abandonPending => (l.abandonPending, none)

/-- Applies operations one after the other, whatever faults they come to. -/
def run [Client σ] (l : Link σ) (ops : List Op) : Link σ := ops.foldl (fun l op => (l.step op).1) l

@[simp] theorem run_nil [Client σ] (l : Link σ) : l.run [] = l := rfl

@[simp] theorem run_cons [Client σ] (l : Link σ) (op : Op) (ops : List Op) :
    l.run (op :: ops) = (l.step op).1.run ops := rfl

theorem run_append [Client σ] (l : Link σ) (ops more : List Op) :
    l.run (ops ++ more) = (l.run ops).run more := List.foldl_append

/-! ## Memory -/

/-- The block of memory counts the bytes of the inbox. -/
def Counted (l : Link σ) : Prop := l.block.held = l.inbox.length

theorem counted_new (settings : Settings) (client : σ) : (Link.new settings client).Counted := rfl

theorem counted_dispatch [Client σ] {l : Link σ} (payload : Bytes) (h : l.Counted) :
    (l.dispatch payload).1.Counted := by
  unfold Counted
  rw [block_dispatch, inbox_dispatch]
  exact h

theorem counted_process [Client σ] {l : Link σ} (h : l.Counted) : l.process.1.Counted := by
  fun_induction process l with
  | case1 l | case2 l => exact Block.held_decode l.decoder h
  | case3 l => exact counted_dispatch _ (Block.held_decode l.decoder h)
  | case4 l _ _ _ _ _ _ ih => exact ih (counted_dispatch _ (Block.held_decode l.decoder h))

theorem counted_step [Client σ] {l : Link σ} (op : Op) (h : l.Counted) :
    (l.step op).1.Counted := by
  cases op with
  | process => exact counted_process h
  | heard data => simp [step, heard, Counted, List.length_append, h.symm]
  | makeRoom => simpa [step, makeRoom, Counted] using h
  | connect e =>
    simp only [step, connect]
    split
    · exact h
    · rfl
  | reset | close => rfl
  | _ => exact h

theorem counted_run [Client σ] {l : Link σ} (ops : List Op) (h : l.Counted) :
    (l.run ops).Counted := by
  induction ops generalizing l with
  | nil => exact h
  | cons op ops ih => exact ih (counted_step op h)

end Reconnect.Link
