import Mathlib.Data.List.Induction
import Reconnect.Proofs.Conservation
import Reconnect.Proofs.Cutting
import Reconnect.Proofs.Handover

/-!
# Bytes and frames in step

The outbound buffer keeps the same thing twice: as one run of bytes for the stream, and as frames
that count how much of them is left.  The stream takes bytes in any number, also none, more than
one frame, or the middle of one, and a connection can be lost at any byte.

## Protocol

* `Torn` frames: the first may be written in part, the others are whole.
* An outbound buffer is in step if its bytes are the ends of its frames.
* A turn is an operation of a run with the link that it finds.  What has happened on a connection
  are the turns since one was last given up; a connection that is refused gives up nothing.

## Results

* `Outbound.Carries.push`, `Outbound.Carries.settle`: framing and writing keep a buffer in step with
  all that was framed and all that has left.
* `Outbound.Carries.longest`: the packets that are done are as many as fit in the bytes that have
  left.
* `Link.left_append_unsent_eq_wire`: **in every run, on every connection, the bytes that have left
  and those that wait are whole frames in the order of their framing**, and what is reported as done
  is the longest front part of them that has left in full.
-/

namespace Reconnect

/-- Packets as they are on the wire, frame behind frame. -/
def wire (ps : List Packet) : Bytes := ps.flatMap fun p => Frame.encode p.body

theorem wire_append (ps qs : List Packet) : wire (ps ++ qs) = wire ps ++ wire qs :=
  List.flatMap_append

theorem wire_cons (p : Packet) (ps : List Packet) :
    wire (p :: ps) = Frame.encode p.body ++ wire ps :=
  List.flatMap_cons

theorem length_encode_pos (payload : Bytes) : 0 < (Frame.encode payload).length := by
  rw [Frame.length_encode, Frame.headLength]
  omega

namespace Unwritten

def frame (f : Unwritten) : Bytes := Frame.encode f.packet.body

/-- The end of the frame that is not yet written. -/
def rest (f : Unwritten) : Bytes := f.frame.drop (f.frame.length - f.left)

theorem length_rest {f : Unwritten} (h : f.left ≤ f.frame.length) : f.rest.length = f.left := by
  rw [rest, List.length_drop]
  omega

theorem rest_of_whole {f : Unwritten} (h : f.left = f.frame.length) : f.rest = f.frame := by
  rw [rest, h, Nat.sub_self, List.drop_zero]

end Unwritten

/-- Of a row of frames the first may be written in part, and nothing is written of the others. -/
def Torn : List Unwritten → Prop
  | [] => True
  | f :: frames => 0 < f.left ∧ f.left ≤ f.frame.length ∧ ∀ g ∈ frames, g.left = g.frame.length

theorem torn_of_whole {frames : List Unwritten} (h : ∀ f ∈ frames, f.left = f.frame.length) :
    Torn frames := by
  cases frames with
  | nil => trivial
  | cons f frames =>
    have hf := h f List.mem_cons_self
    refine ⟨?_, Nat.le_of_eq hf, fun g hg => h g (List.mem_cons_of_mem _ hg)⟩
    rw [hf]
    exact length_encode_pos _

theorem Torn.concat {frames : List Unwritten} {f : Unwritten} (h : Torn frames)
    (hf : f.left = f.frame.length) : Torn (frames ++ [f]) := by
  have hlast : ∀ g ∈ [f], g.left = g.frame.length := by
    intro g hg
    obtain rfl := List.mem_singleton.mp hg
    exact hf
  cases frames with
  | nil => exact torn_of_whole hlast
  | cons g frames =>
    obtain ⟨hpos, hle, hwhole⟩ := h
    refine ⟨hpos, hle, fun k hk => ?_⟩
    rcases List.mem_append.mp hk with hk | hk
    · exact hwhole k hk
    · exact hlast k hk

/-- Whole frames are not torn anywhere. -/
theorem rest_eq_wire {frames : List Unwritten} (h : ∀ f ∈ frames, f.left = f.frame.length) :
    frames.flatMap Unwritten.rest = wire (frames.map (·.packet)) := by
  induction frames with
  | nil => rfl
  | cons f frames ih =>
    rw [List.flatMap_cons, Unwritten.rest_of_whole (h f List.mem_cons_self),
      ih fun g hg => h g (List.mem_cons_of_mem _ hg)]
    rfl

/-- Torn frames are shorter than whole ones, by less than the first of them. -/
theorem Torn.length_rest {f : Unwritten} {frames : List Unwritten} (h : Torn (f :: frames)) :
    (wire (frames.map (·.packet))).length < ((f :: frames).flatMap Unwritten.rest).length ∧
      ((f :: frames).flatMap Unwritten.rest).length ≤
        (wire ((f :: frames).map (·.packet))).length := by
  obtain ⟨hpos, hle, hwhole⟩ := h
  have hlast := rest_eq_wire hwhole
  have hfirst := Unwritten.length_rest hle
  rw [List.flatMap_cons, List.length_append, hlast, hfirst, List.map_cons, wire_cons,
    List.length_append]
  have hframe : f.frame.length = (Frame.encode f.packet.body).length := rfl
  omega

namespace Outbound

/-- Written bytes come off the ends of the frames, and leave them torn. -/
theorem rest_settleFrames (n : Nat) {frames : List Unwritten} (h : Torn frames) :
    (settleFrames n frames).2.flatMap Unwritten.rest = (frames.flatMap Unwritten.rest).drop n ∧
      Torn (settleFrames n frames).2 := by
  fun_induction settleFrames n frames with
  | case1 n => exact ⟨List.drop_nil.symm, h⟩
  | case2 f frames => exact ⟨rfl, h⟩
  | case3 n f frames _ hn others ih =>
    obtain ⟨-, hle, hwhole⟩ := h
    obtain ⟨hothers, htorn⟩ := ih (torn_of_whole hwhole)
    have hlength := Unwritten.length_rest hle
    refine ⟨?_, htorn⟩
    rw [List.flatMap_cons, List.drop_append, hlength,
      List.drop_eq_nil_of_le (hlength.trans_le hn), List.nil_append]
    exact hothers
  | case4 n f frames _ hn =>
    obtain ⟨hpos, hle, hwhole⟩ := h
    have hlength := Unwritten.length_rest hle
    have hrest : Unwritten.rest { f with left := f.left - n } = f.rest.drop n := by
      rw [Unwritten.rest, Unwritten.rest, List.drop_drop]
      congr 1
      change f.frame.length - (f.left - n) = _
      omega
    refine ⟨?_, by show 0 < f.left - n; omega, by show f.left - n ≤ f.frame.length; omega, hwhole⟩
    rw [List.flatMap_cons, List.flatMap_cons, hrest, List.drop_append_of_le_length (by omega)]

/-- A buffer after the bytes `gone` have left of the packets `framed`, of which those of `done` are
reported as done. -/
structure Carries (o : Outbound) (gone : Bytes) (framed done : List Packet) : Prop where
  bytes : gone ++ o.bytes = wire framed
  packets : done ++ o.packets = framed
  step : o.bytes = o.frames.flatMap Unwritten.rest
  torn : Torn o.frames

variable {o : Outbound} {gone : Bytes} {framed done : List Packet}

theorem carries_empty : Carries {} [] [] [] := ⟨rfl, rfl, rfl, trivial⟩

theorem Carries.push (c : o.Carries gone framed done) (p : Packet) :
    (o.push p).Carries gone (framed ++ [p]) done where
  bytes := by
    rw [wire_append, ← c.bytes, List.append_assoc]
    simp [Outbound.push, wire]
  packets := by rw [packets_push, ← List.append_assoc, c.packets]
  step := by
    have hwhole : Unwritten.rest ⟨p, Frame.headLength + p.body.length⟩ = Frame.encode p.body :=
      Unwritten.rest_of_whole (Frame.length_encode p.body).symm
    simp only [Outbound.push, List.flatMap_append, c.step, List.flatMap_cons, List.flatMap_nil,
      List.append_nil, hwhole]
  torn := c.torn.concat (Frame.length_encode p.body).symm

theorem Carries.pushAll (c : o.Carries gone framed done) (ps : List Packet) :
    (ps.foldl Outbound.push o).Carries gone (framed ++ ps) done := by
  induction ps generalizing o framed with
  | nil => rwa [List.append_nil]
  | cons p ps ih =>
    have hrest := ih (c.push p)
    rwa [List.append_assoc, List.singleton_append] at hrest

theorem Carries.settle (c : o.Carries gone framed done) (n : Nat) :
    (o.settle n).1.Carries (gone ++ o.bytes.take n) framed (done ++ (o.settle n).2) where
  bytes := by
    have hsplit : o.bytes.take n ++ o.bytes.drop (min n o.bytes.length) = o.bytes := by
      rw [List.take_eq_take_min, List.take_append_drop]
    rw [List.append_assoc, Outbound.settle, hsplit, c.bytes]
  packets := by rw [List.append_assoc, o.packets_settle, c.packets]
  step := by
    have hsettled := (rest_settleFrames (min n o.bytes.length) c.torn).1
    rw [Outbound.settle, hsettled, ← c.step]
  torn := (rest_settleFrames (min n o.bytes.length) c.torn).2

/-- What is done has left in full, and of the next packet not all has left. -/
theorem Carries.bounds (c : o.Carries gone framed done) :
    (wire done).length ≤ gone.length ∧
      ∀ p, done ++ [p] <+: framed → gone.length < (wire (done ++ [p])).length := by
  have hlength := congrArg List.length c.bytes
  rw [← c.packets, wire_append, List.length_append, List.length_append, c.step] at hlength
  have htorn := c.torn
  unfold Outbound.packets at hlength
  cases hframes : o.frames with
  | nil =>
    rw [hframes] at hlength
    refine ⟨?_, fun p hp => ?_⟩
    · simp only [List.flatMap_nil, List.map_nil, wire, List.length_nil, Nat.add_zero] at hlength ⊢
      omega
    · -- nothing is framed behind what is done
      have hshort := hp.length_le
      rw [← c.packets, Outbound.packets, hframes, List.map_nil, List.append_nil,
        List.length_append] at hshort
      simp only [List.length_cons, List.length_nil] at hshort
      omega
  | cons f frames =>
    rw [hframes] at hlength htorn
    obtain ⟨hlast, hall⟩ := htorn.length_rest
    refine ⟨by omega, fun p hp => ?_⟩
    have hnext : p = f.packet := by
      rw [← c.packets, Outbound.packets, hframes, List.prefix_append_right_inj, List.map_cons,
        List.cons_prefix_cons] at hp
      exact hp.1
    rw [hnext, wire_append, List.length_append]
    rw [List.map_cons, wire_cons, List.length_append] at hlength
    have hone : (wire [f.packet]).length = (Frame.encode f.packet.body).length := by
      rw [wire_cons, List.length_append]
      rfl
    omega

/-- **What is done is the longest front part of the framed packets whose frames have left.** -/
theorem Carries.longest (c : o.Carries gone framed done) {ps : List Packet} (hps : ps <+: framed) :
    ps <+: done ↔ (wire ps).length ≤ gone.length := by
  obtain ⟨hdone, hnext⟩ := c.bounds
  have hprefix : done <+: framed := ⟨o.packets, c.packets⟩
  constructor
  · rintro ⟨qs, rfl⟩
    rw [wire_append, List.length_append] at hdone
    omega
  · intro hfits
    rcases List.prefix_or_prefix_of_prefix hps hprefix with h | ⟨qs, rfl⟩
    · exact h
    · cases qs with
      | nil => exact ⟨[], by rw [List.append_nil, List.append_nil]⟩
      | cons q qs =>
        have hlate : done ++ [q] <+: done ++ q :: qs := by
          rw [List.prefix_append_right_inj]
          exact ⟨qs, rfl⟩
        have hlt := hnext q (hlate.trans hps)
        rw [List.append_cons, wire_append, List.length_append] at hfits
        omega

end Outbound

namespace Move

/-- The packet that is framed, from the queue or past it. -/
def buffered? : Move → Option Packet
  | framed p | pushed p => some p
  | _ => none

end Move

namespace Link

variable {σ : Type}

/-- An operation of a run, with the link that it finds. -/
structure Turn (σ : Type) where
  link : Link σ
  op : Op

/-- The turns of a run. -/
def turns [Client σ] (l : Link σ) : List Op → List (Turn σ)
  | [] => []
  | op :: ops => ⟨l, op⟩ :: (l.step op).1.turns ops

theorem turns_append [Client σ] (l : Link σ) (ops more : List Op) :
    l.turns (ops ++ more) = l.turns ops ++ (l.run ops).turns more := by
  induction ops generalizing l with
  | nil => rfl
  | cons first ops ih => exact congrArg (⟨l, first⟩ :: ·) (ih (l.step first).1)

namespace Turn

/-- The bytes that leave. -/
def left (t : Turn σ) : Bytes :=
  match t.op with
  | .wrote n => t.link.outbound.bytes.take n
  | _ => []

variable [Client σ]

/-- The packets that are framed. -/
def framed (t : Turn σ) : List Packet := (t.link.moves t.op).filterMap Move.buffered?

/-- The packets that are reported as written in full. -/
def finished (t : Turn σ) : List Packet := (t.link.moves t.op).filterMap Move.finished?

/-- The connection is given up. -/
def givesUp (t : Turn σ) : Bool := (t.link.moves t.op).any Move.resets

/-- The turns since a connection was last given up. -/
def sinceGivenUp (h : List (Turn σ)) : List (Turn σ) := h.rtakeWhile fun t => !t.givesUp

theorem sinceGivenUp_concat (h : List (Turn σ)) (t : Turn σ) :
    sinceGivenUp (h ++ [t]) = if t.givesUp then [] else sinceGivenUp h ++ [t] :=
  rtakeWhile_not_concat givesUp h t

end Turn

/-! ## One turn -/

section Turn

variable [Client σ] (l : Link σ)

theorem framed_fill : (⟨l, .fill⟩ : Turn σ).framed =
    (Queue.popMany l.passes (l.settings.drainLimit - l.outbound.size) l.control.queue).1 := by
  rw [Turn.framed, moves, List.filterMap_map]
  exact List.filterMap_some

theorem finished_fill : (⟨l, .fill⟩ : Turn σ).finished = [] := by
  rw [Turn.finished, moves, List.filterMap_map]
  exact List.filterMap_eq_nil_iff.mpr fun p _ => rfl

theorem framed_wrote (n : Nat) : (⟨l, .wrote n⟩ : Turn σ).framed = [] := by
  rw [Turn.framed, moves, List.filterMap_map]
  exact List.filterMap_eq_nil_iff.mpr fun p _ => rfl

theorem finished_wrote (n : Nat) :
    (⟨l, .wrote n⟩ : Turn σ).finished = (l.outbound.settle n).2 := by
  rw [Turn.finished, moves, List.filterMap_map]
  exact List.filterMap_some

end Turn

/-- The operation has nothing to do with the outbound buffer. -/
def Op.sparesOutbound : Op → Bool
  | .fill | .pushAhead _ | .wrote _ | .connect _ | .reset | .close => false
  | _ => true

theorem outbound_step [Client σ] (l : Link σ) {op : Op} (h : op.sparesOutbound = true) :
    (l.step op).1.outbound = l.outbound := by
  cases op with
  | process => exact l.sameSending_process.outbound
  | fill | pushAhead p | wrote n | connect e | reset | close => cases h
  | established localEnd now | makeRoom | heard data | handOver | tick now | steer actions | calm
  | abandonPending => rfl

/-- Moves of operations that spare the outbound buffer do nothing to it. -/
theorem moves_sparesOutbound [Client σ] (l : Link σ) {op : Op} (h : op.sparesOutbound = true) :
    ∀ m ∈ l.moves op, m.buffered? = none ∧ m.finished? = none ∧ m.resets = false := by
  intro m hm
  cases op with
  | process =>
    have hcalls := l.calls_processMoves m hm
    cases m <;> first | exact ⟨rfl, rfl, rfl⟩ | cases hcalls
  | fill | pushAhead p | wrote n | connect e | reset | close => cases h
  | handOver =>
    obtain ⟨p, -, rfl⟩ := List.mem_map.mp hm
    exact ⟨rfl, rfl, rfl⟩
  | established localEnd now | steer actions | calm =>
    obtain rfl := List.mem_singleton.mp hm
    exact ⟨rfl, rfl, rfl⟩
  | makeRoom | heard data | tick now | abandonPending => cases hm

theorem turn_sparesOutbound [Client σ] {t : Turn σ} (h : t.op.sparesOutbound = true) :
    t.left = [] ∧ t.framed = [] ∧ t.finished = [] ∧ t.givesUp = false := by
  have hmoves := t.link.moves_sparesOutbound h
  refine ⟨?_, List.filterMap_eq_nil_iff.mpr fun m hm => (hmoves m hm).1,
    List.filterMap_eq_nil_iff.mpr fun m hm => (hmoves m hm).2.1, ?_⟩
  · obtain ⟨l, op⟩ := t
    cases op with
    | wrote n => cases h
    | _ => rfl
  · refine List.any_eq_false.mpr fun m hm => ?_
    rw [(hmoves m hm).2.2]
    decide

/-- What has happened on a connection, and what is left in the outbound buffer. -/
def OnWire [Client σ] (h : List (Turn σ)) (l : Link σ) : Prop :=
  l.outbound.Carries (h.flatMap Turn.left) (h.flatMap Turn.framed) (h.flatMap Turn.finished)

/-- A turn adds to what has happened, by the bytes and packets that it is known for. -/
theorem OnWire.concat [Client σ] {h : List (Turn σ)} {l : Link σ} {t : Turn σ} (gone : Bytes)
    (framed finished : List Packet) (hleft : t.left = gone) (hframed : t.framed = framed)
    (hfinished : t.finished = finished)
    (c : l.outbound.Carries (h.flatMap Turn.left ++ gone) (h.flatMap Turn.framed ++ framed)
      (h.flatMap Turn.finished ++ finished)) : OnWire (h ++ [t]) l := by
  subst hleft hframed hfinished
  simpa only [OnWire, List.flatMap_append, List.flatMap_singleton] using c

theorem outbound_of_givesUp [Client σ] {t : Turn σ} (h : t.givesUp = true) :
    (t.link.step t.op).1.outbound = {} := by
  obtain ⟨l, op⟩ := t
  cases op with
  | connect e =>
    simp only [Turn.givesUp, moves] at h
    simp only [step, connect]
    split
    · rename_i hclosed
      rw [if_pos hclosed] at h
      cases h
    · rfl
  | reset | close => rfl
  | pushAhead p => cases h
  | fill | wrote n =>
    obtain ⟨m, hm, hresets⟩ := List.any_eq_true.mp h
    obtain ⟨p, -, rfl⟩ := List.mem_map.mp hm
    cases hresets
  | _ =>
    rw [(turn_sparesOutbound rfl).2.2.2] at h
    cases h

/-- A connection that is refused changes nothing. -/
theorem step_connect_refused [Client σ] {l : Link σ} {e : Endpoint}
    (h : (⟨l, .connect e⟩ : Turn σ).givesUp = false) :
    (l.step (.connect e)).1 = l ∧ l.moves (.connect e) = [] := by
  simp only [Turn.givesUp, moves] at h
  simp only [step, connect, moves]
  split
  · exact ⟨rfl, rfl⟩
  · rename_i hopen
    rw [if_neg hopen] at h
    cases h

/-- **One turn keeps the outbound buffer in step** with what has happened on the connection. -/
theorem OnWire.step [Client σ] {h : List (Turn σ)} {t : Turn σ}
    (c : OnWire (Turn.sinceGivenUp h) t.link) :
    OnWire (Turn.sinceGivenUp (h ++ [t])) (t.link.step t.op).1 := by
  rw [Turn.sinceGivenUp_concat]
  cases hg : t.givesUp with
  | true =>
    show Outbound.Carries _ [] [] []
    rw [outbound_of_givesUp hg]
    exact Outbound.carries_empty
  | false =>
    have unchanged (hout : (t.link.step t.op).1.outbound = t.link.outbound) (hl : t.left = [])
        (hf : t.framed = []) (hd : t.finished = []) :
        OnWire (Turn.sinceGivenUp h ++ [t]) (t.link.step t.op).1 := by
      refine OnWire.concat [] [] [] hl hf hd ?_
      rw [hout, List.append_nil, List.append_nil, List.append_nil]
      exact c
    by_cases hs : t.op.sparesOutbound = true
    · obtain ⟨hl, hf, hd, -⟩ := turn_sparesOutbound hs
      exact unchanged (t.link.outbound_step hs) hl hf hd
    · obtain ⟨l, op⟩ := t
      cases op with
      | fill =>
        refine OnWire.concat [] _ [] rfl l.framed_fill l.finished_fill ?_
        rw [List.append_nil, List.append_nil]
        exact c.pushAll _
      | pushAhead p =>
        refine OnWire.concat [] [p] [] rfl rfl rfl ?_
        rw [List.append_nil, List.append_nil]
        exact c.push p
      | wrote n =>
        refine OnWire.concat _ [] _ rfl (l.framed_wrote n) (l.finished_wrote n) ?_
        rw [List.append_nil]
        exact c.settle n
      | connect e =>
        obtain ⟨hlink, hmoves⟩ := step_connect_refused hg
        refine unchanged (congrArg Link.outbound hlink) rfl ?_ ?_
        · rw [Turn.framed, hmoves]
          rfl
        · rw [Turn.finished, hmoves]
          rfl
      | reset | close => cases hg
      | _ => exact absurd rfl hs

/-! ## The count of packets -/

theorem sent_foldl_countSent (ps : List Packet) {v : Liveness} {n : Nat}
    (h : v.sent = min n maxCount) :
    (ps.foldl (fun v _ => v.countSent) v).sent = min (n + ps.length) maxCount := by
  induction ps generalizing v n with
  | nil => exact h
  | cons p ps ih =>
    have hone : v.countSent.sent = min (n + 1) maxCount := by
      show min (v.sent + 1) maxCount = _
      omega
    rw [List.foldl_cons, ih hone, List.length_cons]
    omega

theorem sent_step [Client σ] {t : Turn σ} {n : Nat} (h : t.link.liveness.sent = min n maxCount) :
    (t.link.step t.op).1.liveness.sent = min (n + t.finished.length) maxCount := by
  obtain ⟨l, op⟩ := t
  cases op with
  | wrote n =>
    rw [finished_wrote]
    exact sent_foldl_countSent _ h
  | fill =>
    rw [finished_fill]
    exact h
  | connect e =>
    simp only [Turn.finished, step, connect, moves]
    split <;> exact h
  | process =>
    rw [(turn_sparesOutbound rfl).2.2.1, step, l.sameSending_process.sent]
    exact h
  | reset | close | pushAhead p => exact h
  | _ =>
    rw [(turn_sparesOutbound rfl).2.2.1]
    exact h

/-! ## Runs -/

/-- The turns of the connection that a run ends with. -/
def connection [Client σ] (l : Link σ) (ops : List Op) : List (Turn σ) :=
  Turn.sinceGivenUp (l.turns ops)

theorem onWire_run [Client σ] (settings : Settings) (client : σ) (ops : List Op) :
    OnWire ((new settings client).connection ops) ((new settings client).run ops) ∧
      ((new settings client).run ops).liveness.sent =
        min (((new settings client).turns ops).flatMap Turn.finished).length maxCount := by
  induction ops using List.reverseRecOn with
  | nil => exact ⟨Outbound.carries_empty, rfl⟩
  | append_singleton ops op ih =>
    obtain ⟨hwire, hsent⟩ := ih
    have hlast : ((new settings client).run ops).turns [op] =
        [⟨(new settings client).run ops, op⟩] := rfl
    rw [connection, turns_append, run_append, hlast]
    refine ⟨OnWire.step (t := ⟨_, op⟩) hwire, ?_⟩
    rw [List.flatMap_append, List.flatMap_singleton, List.length_append]
    exact sent_step (t := ⟨_, op⟩) hsent

/-- **What leaves is whole frames in order, on every connection.**
    In every run, whatever numbers of bytes the stream takes and however often a connection is given
    up: since one was last given up, the bytes that have left and those that wait are the frames of
    the packets that were framed, in this order; the packets that were reported as done are the
    longest front part of these whose frames have left in full.  The counter shows how many packets
    were done on all connections, up to its largest value.  In front of a body shorter than 2 GiB
    stands its length. -/
theorem left_append_unsent_eq_wire [Client σ] (settings : Settings) (client : σ) (ops : List Op) :
    ((new settings client).connection ops).flatMap Turn.left ++
        ((new settings client).run ops).outbound.bytes =
      wire (((new settings client).connection ops).flatMap Turn.framed) ∧
    ((new settings client).connection ops).flatMap Turn.finished <+:
      ((new settings client).connection ops).flatMap Turn.framed ∧
    (∀ ps, ps <+: ((new settings client).connection ops).flatMap Turn.framed →
      (ps <+: ((new settings client).connection ops).flatMap Turn.finished ↔
        (wire ps).length ≤
          (((new settings client).connection ops).flatMap Turn.left).length)) ∧
    ((new settings client).run ops).liveness.sent =
      min (((new settings client).turns ops).flatMap Turn.finished).length maxCount ∧
    ∀ p : Packet, p.body.length < 2147483648 → ∃ head, Frame.encode p.body = head ++ p.body ∧
      head.length = 4 ∧ (Bytes.toInt32 head).toInt = p.body.length := by
  obtain ⟨hwire, hsent⟩ := onWire_run settings client ops
  exact ⟨hwire.bytes, ⟨_, hwire.packets⟩, fun ps hps => hwire.longest hps, hsent,
    fun p hp => encode_eq_head_append hp⟩

end Link

end Reconnect
