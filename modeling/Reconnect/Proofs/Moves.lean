import Mathlib.Data.List.DropRight
import Reconnect.Link.Run

/-!
# The course of a run

A run of a link, taken apart into moves: each move is one thing that happens to one packet, one
call to the client, or one change of the connection, so that what happens in a run can be told in
order.  The moves of an operation are read off the link that it is applied to.

## Protocol

* `connect` gives up the old connection and begins a new one; `established` opens it.
* `fill` frames packets one by one, `wrote` finishes them one by one, and `handOver` hands them
  over one by one.
* `process` calls the client once for every frame, the answer to the connect request included if
  it can be read.
* What a client does to the control while it is called belongs to the call; what the holders of
  the control do is a move of its own.

Bytes, clocks and the memory that is read into do not show in a course.
-/

namespace Reconnect

/-- An element of two lists one after the other is in the first or in the second. -/
theorem append_eq_append_cons {α : Type} {xs ys before after : List α} {a : α}
    (h : xs ++ ys = before ++ a :: after) :
    (∃ late, xs = before ++ a :: late ∧ after = late ++ ys) ∨
      ∃ more, before = xs ++ more ∧ ys = more ++ a :: after := by
  rcases List.append_eq_append_iff.mp h with ⟨more, rfl, hys⟩ | ⟨rest, rfl, hrest⟩
  · exact .inr ⟨more, rfl, hys⟩
  · cases rest with
    | nil => exact .inr ⟨[], by simp, hrest.symm⟩
    | cons b late =>
      rw [List.cons_append, List.cons.injEq] at hrest
      obtain ⟨rfl, rfl⟩ := hrest
      exact .inl ⟨late, rfl, rfl⟩

/-- What stands behind the last element of a kind, told from the end of the list. -/
theorem rtakeWhile_not_concat {α : Type} (p : α → Bool) (l : List α) (a : α) :
    (l ++ [a]).rtakeWhile (fun x => !p x) =
      if p a then [] else l.rtakeWhile (fun x => !p x) ++ [a] := by
  rw [List.rtakeWhile_concat]
  cases p a <;> rfl

namespace Control.Action

/-- The packet that an action appends to the queue. -/
def appended? : Action → Option Packet
  | pushBack p | submit p => some p
  | _ => none

/-- The packet that an action puts in front of the queue. -/
def jumped? : Action → Option Packet
  | pushFront p => some p
  | _ => none

end Control.Action

/-- One thing that happens in a run of a link. -/
inductive Move where
  /-- A connection is begun, with the gate closed if authentication is required. -/
  | began (authRequired : Bool)
  /-- The stream is open, and the client primes the connection. -/
  | opened (before : Stage) (actions : List Control.Action)
  /-- The client is told of the answer to the connect request. -/
  | answered (response : Session.Response) (actions : List Control.Action)
  /-- The client is handed a frame, with the packets that wait for a reply. -/
  | received (pending : List Packet) (frame : Bytes) (actions : List Control.Action)
  /-- The holders of the control act. -/
  | steered (actions : List Control.Action)
  /-- A kept wake-up is used up. -/
  | calmed
  /-- A packet leaves the queue and is framed. -/
  | framed (p : Packet)
  /-- A packet is framed past the queue. -/
  | pushed (p : Packet)
  /-- The frame of a packet is written in full. -/
  | finished (p : Packet)
  /-- A written request waits for its reply from now on. -/
  | handed (p : Packet)
  /-- The connection is given up, and the written requests that were not handed over with it. -/
  | reset (lost : List Packet)
  /-- The link is shut down for good. -/
  | closed
deriving DecidableEq, Repr

namespace Move

/-- What a move does to the control through its holders or through the client. -/
def actions : Move → List Control.Action
  | opened _ actions | answered _ actions | received _ _ actions | steered actions => actions
  | _ => []

/-- The packets that are appended to the queue. -/
def submitted (m : Move) : List Packet := m.actions.filterMap Control.Action.appended?

/-- The packets that get ahead of those in the queue: put in front of it or framed past it. -/
def jumped : Move → List Packet
  | pushed p => [p]
  | m => m.actions.filterMap Control.Action.jumped?

/-- A connection is begun. -/
def begins : Move → Bool
  | began _ => true
  | _ => false

/-- The client is called with what was read. -/
def calls : Move → Bool
  | answered _ _ | received _ _ _ => true
  | _ => false

/-- What has happened since a connection was last begun. -/
def current (h : List Move) : List Move := h.rtakeWhile fun m => !m.begins

theorem current_concat (h : List Move) (m : Move) :
    current (h ++ [m]) = if m.begins then [] else current h ++ [m] :=
  rtakeWhile_not_concat begins h m

end Move

namespace Link

variable {σ : Type}

/-! ## The moves of an operation -/

/-- A frame that is given to whom it is for. -/
def dispatchMoves [Client σ] (l : Link σ) (payload : Bytes) : List Move :=
  if l.stage = .handshaking then
    match Session.Response.decode payload with
    | .error _ => []
    | .ok response => [.answered response (Client.accept l.client response).actions]
  else [.received l.pending payload (Client.receive l.client l.pending payload).1.actions]

/-- The link after one call of its decoder. -/
def decoded (l : Link σ) : Link σ :=
  { l with
    decoder := (l.decoder.next l.inbox).decoder
    inbox := (l.decoder.next l.inbox).rest
    block := l.block.decode l.decoder (l.decoder.next l.inbox) }

/-- The link after one call of its decoder that found a frame. -/
def counted (l : Link σ) : Link σ := { l.decoded with liveness := l.liveness.countReceived }

theorem work_dispatch_lt [Client σ] {l : Link σ} {payload : Bytes}
    (h : (l.decoder.next l.inbox).found = .frame payload) :
    (l.counted.dispatch payload).1.decoder.work (l.counted.dispatch payload).1.inbox <
      l.decoder.work l.inbox := by
  rw [inbox_dispatch, decoder_dispatch]
  exact Frame.Decoder.next_frame_lt h

/-- Frames that are decoded and dispatched, up to the first fault. -/
def processMoves [Client σ] (l : Link σ) : List Move :=
  match _h : (l.decoder.next l.inbox).found with
  | .incomplete | .invalid _ => []
  | .frame payload =>
    l.counted.dispatchMoves payload ++
      if (l.counted.dispatch payload).2.isNone then (l.counted.dispatch payload).1.processMoves
      else []
termination_by l.decoder.work l.inbox
decreasing_by exact work_dispatch_lt _h

/-- What an operation comes to. -/
def moves [Client σ] (l : Link σ) : Op → List Move
  | .connect _ =>
    if l.phase = .closed then [] else [.reset l.written, .began l.settings.authRequired]
  | .established _ _ => [.opened l.stage (Client.prime l.client).actions]
  | .process => l.processMoves
  | .fill =>
    (Queue.popMany l.passes (l.settings.drainLimit - l.outbound.size) l.control.queue).1.map .framed
  | .pushAhead p => [.pushed p]
  | .wrote n => (l.outbound.settle n).2.map .finished
  | .handOver => l.written.map .handed
  | .reset => [.reset l.written]
  | .close => [.reset l.written, .closed]
  | .steer actions => [.steered actions]
  | .calm => [.calmed]
  | .makeRoom | .heard _ | .tick _ | .abandonPending => []

/-- What a run comes to. -/
def course [Client σ] (l : Link σ) : List Op → List Move
  | [] => []
  | op :: ops => l.moves op ++ (l.step op).1.course ops

@[simp] theorem course_nil [Client σ] (l : Link σ) : l.course [] = [] := rfl

@[simp] theorem course_cons [Client σ] (l : Link σ) (op : Op) (ops : List Op) :
    l.course (op :: ops) = l.moves op ++ (l.step op).1.course ops := rfl

theorem course_append [Client σ] (l : Link σ) (ops more : List Op) :
    l.course (ops ++ more) = l.course ops ++ (l.run ops).course more := by
  induction ops generalizing l with
  | nil => rfl
  | cons op ops ih =>
    rw [List.cons_append, course_cons, ih, course_cons, List.append_assoc, run_cons]

/-- What holds of the moves of each operation holds of all moves. -/
theorem mem_course [Client σ] {Q : Move → Prop} {l : Link σ} {ops : List Op}
    (h : ∀ (l : Link σ), ∀ op ∈ ops, ∀ m ∈ l.moves op, Q m) : ∀ m ∈ l.course ops, Q m := by
  induction ops generalizing l with
  | nil => simp
  | cons op ops ih =>
    intro m hm
    rcases List.mem_append.mp hm with hm | hm
    · exact h l op List.mem_cons_self m hm
    · exact ih (fun l op hop => h l op (List.mem_cons_of_mem _ hop)) m hm

/-- A move of a run belongs to one of its operations. -/
theorem course_split [Client σ] {l : Link σ} {ops : List Op} {before after : List Move} {m : Move}
    (h : l.course ops = before ++ m :: after) :
    ∃ ops₁ op ops₂ early late, ops = ops₁ ++ op :: ops₂ ∧
      (l.run ops₁).moves op = early ++ m :: late ∧ before = l.course ops₁ ++ early := by
  induction ops generalizing l before with
  | nil => simp at h
  | cons op ops ih =>
    rw [course_cons] at h
    rcases append_eq_append_cons h with ⟨late, hmoves, -⟩ | ⟨more, rfl, hrest⟩
    · exact ⟨[], op, ops, before, late, rfl, hmoves, rfl⟩
    · obtain ⟨ops₁, op', ops₂, early, late, rfl, hm, rfl⟩ := ih hrest
      exact ⟨op :: ops₁, op', ops₂, early, late, rfl, hm, (List.append_assoc ..).symm⟩

/-! ## Frame by frame -/

theorem process_eq [Client σ] (l : Link σ) : l.process =
    match (l.decoder.next l.inbox).found with
    | .incomplete => (l.decoded, none)
    | .invalid fault => (l.decoded, some fault)
    | .frame payload =>
      match (l.counted.dispatch payload).2 with
      | some fault => ((l.counted.dispatch payload).1, some fault)
      | none => (l.counted.dispatch payload).1.process := by
  rw [process]
  split <;> rename_i h <;> rw [h] <;> rfl

theorem processMoves_eq [Client σ] (l : Link σ) : l.processMoves =
    match (l.decoder.next l.inbox).found with
    | .incomplete | .invalid _ => []
    | .frame payload =>
      l.counted.dispatchMoves payload ++
        if (l.counted.dispatch payload).2.isNone then
          (l.counted.dispatch payload).1.processMoves
        else [] := by
  rw [processMoves]
  split <;> rename_i h <;> rw [h]

section Frame

variable [Client σ] {l : Link σ} {payload : Bytes}

theorem process_refused {fault : Fault} (h : (l.decoder.next l.inbox).found = .frame payload)
    (hd : (l.counted.dispatch payload).2 = some fault) :
    l.process = ((l.counted.dispatch payload).1, some fault) := by
  rw [process_eq, h]
  simp only [hd]

theorem process_next (h : (l.decoder.next l.inbox).found = .frame payload)
    (hd : (l.counted.dispatch payload).2 = none) :
    l.process = (l.counted.dispatch payload).1.process := by
  rw [process_eq, h]
  simp only [hd]

theorem processMoves_refused {fault : Fault}
    (h : (l.decoder.next l.inbox).found = .frame payload)
    (hd : (l.counted.dispatch payload).2 = some fault) :
    l.processMoves = l.counted.dispatchMoves payload := by
  rw [processMoves_eq, h]
  simp [hd]

theorem processMoves_next (h : (l.decoder.next l.inbox).found = .frame payload)
    (hd : (l.counted.dispatch payload).2 = none) :
    l.processMoves =
      l.counted.dispatchMoves payload ++ (l.counted.dispatch payload).1.processMoves := by
  rw [processMoves_eq, h]
  simp [hd]

end Frame

/-- What is to be shown of every link is shown of a link whose decoder finds no frame, of one whose
client refuses the frame, and of one that goes on with the next frame. -/
@[elab_as_elim]
theorem process_rec [Client σ] {P : Link σ → Prop} (l : Link σ)
    (incomplete : ∀ l, (l.decoder.next l.inbox).found = .incomplete → P l)
    (invalid : ∀ l fault, (l.decoder.next l.inbox).found = .invalid fault → P l)
    (refused : ∀ l payload fault, (l.decoder.next l.inbox).found = .frame payload →
      (l.counted.dispatch payload).2 = some fault → P l)
    (next : ∀ l payload, (l.decoder.next l.inbox).found = .frame payload →
      (l.counted.dispatch payload).2 = none → P (l.counted.dispatch payload).1 → P l) : P l := by
  generalize hn : l.decoder.work l.inbox = n
  induction n using Nat.strongRecOn generalizing l with
  | ind n ih =>
    cases hf : (l.decoder.next l.inbox).found with
    | incomplete => exact incomplete l hf
    | invalid fault => exact invalid l fault hf
    | frame payload =>
      cases hd : (l.counted.dispatch payload).2 with
      | some fault => exact refused l payload fault hf hd
      | none =>
        have hlt := work_dispatch_lt hf
        rw [hn] at hlt
        exact next l payload hf hd (ih _ hlt _ rfl)

/-- What reading has nothing to do with is the same in two links. -/
structure SameSending (l m : Link σ) : Prop where
  settings : m.settings = l.settings
  outbound : m.outbound = l.outbound
  sent : m.liveness.sent = l.liveness.sent

theorem sameSending_dispatch [Client σ] (l : Link σ) (payload : Bytes) :
    SameSending l (l.counted.dispatch payload).1 := by
  unfold dispatch accept
  split
  · split <;> exact ⟨rfl, rfl, rfl⟩
  · exact ⟨rfl, rfl, rfl⟩

theorem sameSending_process [Client σ] (l : Link σ) : SameSending l l.process.1 := by
  induction l using process_rec with
  | incomplete l h | invalid l fault h =>
    rw [process_eq, h]
    exact ⟨rfl, rfl, rfl⟩
  | refused l payload fault h hd =>
    rw [process_refused h hd]
    exact l.sameSending_dispatch payload
  | next l payload h hd ih =>
    rw [process_next h hd]
    have first := l.sameSending_dispatch payload
    exact ⟨ih.settings.trans first.settings, ih.outbound.trans first.outbound,
      ih.sent.trans first.sent⟩

/-- What holds of what each frame comes to holds of all that processing comes to. -/
theorem mem_processMoves [Client σ] {Q : Move → Prop}
    (h : ∀ (l : Link σ) payload, ∀ m ∈ l.dispatchMoves payload, Q m) (l : Link σ) :
    ∀ m ∈ l.processMoves, Q m := by
  induction l using process_rec with
  | incomplete l hfound | invalid l fault hfound =>
    rw [processMoves_eq, hfound]
    simp
  | refused l payload fault hfound hd =>
    rw [processMoves_refused hfound hd]
    exact h l.counted payload
  | next l payload hfound hd ih =>
    rw [processMoves_next hfound hd]
    intro m hm
    rcases List.mem_append.mp hm with hm | hm
    · exact h l.counted payload m hm
    · exact ih m hm

/-- Processing is nothing but calls. -/
theorem calls_processMoves [Client σ] (l : Link σ) : ∀ m ∈ l.processMoves, m.calls = true := by
  refine mem_processMoves (fun l payload => ?_) l
  unfold dispatchMoves
  split
  · split <;> simp [Move.calls]
  · simp [Move.calls]

end Link

end Reconnect
