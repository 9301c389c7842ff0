import Reconnect.Frame
import Reconnect.Packet

/-!
# The outbound buffer

Framed packets wait for the stream as one run of bytes. A packet is done once the last byte of its
frame is written; a packet whose frame is only partly written stays, so that it can be sent again
in full on another connection.

## Results

* `Outbound.packets_push`, `Outbound.packets_settle`: no packet is lost or reordered.
-/

namespace Reconnect

/-- A framed packet and how much of its frame is not yet written. -/
structure Unwritten where
  packet : Packet
  left : Nat
deriving DecidableEq, Repr

/-- Framed packets on their way into the stream. -/
structure Outbound where
  /-- The bytes that are not yet written. -/
  bytes : Bytes := []
  /-- The packets that these bytes belong to, front first. -/
  frames : List Unwritten := []
deriving DecidableEq, Repr

namespace Outbound

/-- The number of packets, one that is partly written included. -/
def size (o : Outbound) : Nat := o.frames.length

def isEmpty (o : Outbound) : Bool := o.frames.isEmpty

/-- The packets that are not written in full. -/
def packets (o : Outbound) : List Packet := o.frames.map (·.packet)

/-- Frames a packet and appends it. -/
def push (o : Outbound) (p : Packet) : Outbound where
  bytes := o.bytes ++ Frame.encode p.body
  frames := o.frames ++ [⟨p, Frame.headLength + p.body.length⟩]

/-- Gives `n` written bytes to the frames in front: the packets that are done, and the frames that
are left. -/
def settleFrames : Nat → List Unwritten → List Packet × List Unwritten
  | _, [] => ([], [])
  | n, f :: frames =>
    if n = 0 then ([], f :: frames)
    else if f.left ≤ n then
      let others := settleFrames (n - f.left) frames
      (f.packet :: others.1, others.2)
    else ([], { f with left := f.left - n } :: frames)

/-- Takes off `n` written bytes, at most all of them, and hands out the packets that are done. -/
def settle (o : Outbound) (n : Nat) : Outbound × List Packet :=
  let written := min n o.bytes.length
  let settled := settleFrames written o.frames
  ({ bytes := o.bytes.drop written, frames := settled.2 }, settled.1)

/-- Gives up the bytes and keeps the packets that are not written in full. -/
def unwind (o : Outbound) : Outbound × List Packet := ({}, o.packets)

@[simp] theorem packets_push (o : Outbound) (p : Packet) :
    (o.push p).packets = o.packets ++ [p] := by
  simp [push, packets]

@[simp] theorem size_push (o : Outbound) (p : Packet) : (o.push p).size = o.size + 1 := by
  simp [push, size]

theorem packets_settleFrames (n : Nat) (frames : List Unwritten) :
    (settleFrames n frames).1 ++ (settleFrames n frames).2.map (·.packet) =
      frames.map (·.packet) := by
  fun_induction settleFrames n frames with
  | case3 n f frames _ _ others ih => simpa [others] using ih
  | _ => rfl

theorem packets_settle (o : Outbound) (n : Nat) :
    (o.settle n).2 ++ (o.settle n).1.packets = o.packets :=
  packets_settleFrames _ _

end Outbound

end Reconnect
