import Reconnect.Proofs.Conservation
import Reconnect.Proofs.Cutting
import Reconnect.Proofs.Moves

/-!
# What a client gets to hear

Bytes arrive in pieces of any size, and frames are decoded as soon as they are complete.  What the
client is called for does not depend on the pieces: it is what comes of cutting all the bytes at
once and going through the payloads one by one, up to the first fault.  Nothing of an earlier
connection shows on a later one.

## Protocol

* A listener is the part of a link that frames act on; `Listener.hear` is what one payload does,
  and `Listener.hearAll` goes through payloads that are all there.
* `Link.feed` hears pieces and processes each of them, up to the first fault.

## Results

* `Link.hearAll_process`: processing does what the payloads do that lie ahead of the decoder, and
  leaves the rest ahead of it.
* `Link.fed_eq_hearAll`: **on every new connection, whatever was before it and however the bytes
  are cut into pieces, the client hears the payloads of all bytes together**: the answer to its
  connect request first, then every other one in order, up to the first fault.
-/

namespace Reconnect

/-- The part of a link that frames act on. -/
structure Listener (σ : Type) where
  stage : Stage
  sessionId : Int64
  client : σ
  /-- Requests that wait for a reply, oldest first. -/
  pending : List Packet
  /-- How many frames were received in full. -/
  received : Nat

/-- What comes of frames: what happens, the listener after it, and why it ends early. -/
structure Heard (σ : Type) where
  moves : List Move
  listener : Listener σ
  fault : Option Fault

/-- A call to a client. -/
inductive Call where
  /-- The answer to the connect request. -/
  | connected (response : Session.Response)
  /-- A frame after it. -/
  | frame (payload : Bytes)
deriving DecidableEq, Repr

/-- The call that a move is. -/
def Move.call? : Move → Option Call
  | answered response _ => some (.connected response)
  | received _ payload _ => some (.frame payload)
  | _ => none

namespace Heard

variable {σ : Type}

/-- What comes later does not happen after a fault. -/
def andThen (now later : Heard σ) : Heard σ :=
  match now.fault with
  | some _ => now
  | none => { later with moves := now.moves ++ later.moves }

theorem andThen_of_fault {now : Heard σ} {fault : Fault} (later : Heard σ)
    (h : now.fault = some fault) : now.andThen later = now := by
  rw [andThen, h]

theorem andThen_of_none {now : Heard σ} (later : Heard σ) (h : now.fault = none) :
    now.andThen later = { later with moves := now.moves ++ later.moves } := by
  rw [andThen, h]

theorem andThen_assoc (first second third : Heard σ) :
    (first.andThen second).andThen third = first.andThen (second.andThen third) := by
  obtain ⟨moves, listener, fault⟩ := first
  obtain ⟨moves', listener', fault'⟩ := second
  cases fault with
  | some fault => rfl
  | none =>
    cases fault' with
    | some fault' => rfl
    | none => simp only [andThen, List.append_assoc]

end Heard

namespace Listener

variable {σ : Type} [Client σ]

/-- The answer to the connect request, of which the client is told if it can be read. -/
def accept (s : Listener σ) (answer : Bytes) : Heard σ :=
  match Session.Response.decode answer with
  | .error cause => ⟨[], s, some (.handshake cause)⟩
  | .ok response =>
    let reaction := Client.accept s.client response
    ⟨[.answered response reaction.actions],
      { s with stage := .ready, sessionId := response.sessionId, client := reaction.client },
      reaction.fault⟩

/-- A frame that the client is handed as it is. -/
def receive (s : Listener σ) (payload : Bytes) : Heard σ :=
  let reaction := Client.receive s.client s.pending payload
  ⟨[.received s.pending payload reaction.1.actions],
    { s with client := reaction.1.client, pending := reaction.2 }, reaction.1.fault⟩

/-- One more frame is received. -/
def count (s : Listener σ) : Listener σ := { s with received := min (s.received + 1) maxCount }

/-- A frame is counted and then given to whom it is for. -/
def hear (s : Listener σ) (payload : Bytes) : Heard σ :=
  if s.stage = .handshaking then s.count.accept payload else s.count.receive payload

/-- Payloads one after the other, up to the first fault. -/
def hearAll (s : Listener σ) : List Bytes → Option Fault → Heard σ
  | [], fault => ⟨[], s, fault⟩
  | payload :: payloads, fault =>
    (s.hear payload).andThen ((s.hear payload).listener.hearAll payloads fault)

/-- A count that stops at a bound may stop there early or late. -/
theorem min_succ_add_min (count n bound : Nat) :
    min (min (count + 1) bound + n) bound = min (count + (n + 1)) bound := by
  omega

theorem received_receive (s : Listener σ) (payload : Bytes) :
    (s.receive payload).listener.received = s.received := rfl

/-- Once the connect request is answered, the client is handed the first payloads as they are, and
all of them if there is no fault. -/
theorem calls_hearAll {s : Listener σ} (hs : s.stage ≠ .handshaking)
    (hr : s.received ≤ maxCount) (payloads : List Bytes) (fault : Option Fault) :
    ∃ n ≤ payloads.length,
      (s.hearAll payloads fault).moves.filterMap Move.call? = (payloads.take n).map .frame ∧
      (s.hearAll payloads fault).listener.received = min (s.received + n) maxCount ∧
      ((s.hearAll payloads fault).fault = none → n = payloads.length) := by
  induction payloads generalizing s with
  | nil =>
    refine ⟨0, Nat.le_refl 0, rfl, ?_, fun _ => rfl⟩
    rw [Nat.add_zero, Nat.min_eq_left hr]
    rfl
  | cons payload payloads ih =>
    have hhear : s.hear payload = s.count.receive payload := if_neg hs
    have hcount : s.count.received = min (s.received + 1) maxCount := rfl
    rw [hearAll, hhear]
    cases hf : (s.count.receive payload).fault with
    | some refusal =>
      rw [Heard.andThen_of_fault _ hf]
      refine ⟨1, by simp, rfl, ?_, fun hnone => ?_⟩
      · rw [received_receive, hcount]
      · rw [hf] at hnone
        cases hnone
    | none =>
      rw [Heard.andThen_of_none _ hf]
      have hle : (s.count.receive payload).listener.received ≤ maxCount := by
        rw [received_receive, hcount]
        exact Nat.min_le_right ..
      obtain ⟨n, hn, hcalls, hreceived, hall⟩ := ih (s := (s.count.receive payload).listener) hs hle
      refine ⟨n + 1, by simpa using hn, ?_, ?_, fun hnone => by simpa using hall hnone⟩
      · simp only [List.filterMap_append, hcalls, List.take_succ_cons, List.map_cons]
        rfl
      · rw [hreceived, received_receive, hcount, min_succ_add_min]

/-- An answer that cannot be read ends everything, and nobody is called. -/
theorem hearAll_of_error {s : Listener σ} (hs : s.stage = .handshaking) {answer : Bytes}
    {cause : DecodeFault} (h : Session.Response.decode answer = .error cause)
    (payloads : List Bytes) (fault : Option Fault) :
    s.hearAll (answer :: payloads) fault = ⟨[], s.count, some (.handshake cause)⟩ := by
  have hhear : s.hear answer = ⟨[], s.count, some (.handshake cause)⟩ := by
    rw [hear, if_pos hs, accept, h]
  rw [hearAll, hhear]
  rfl

/-- The client is told of an answer that can be read, and then handed the payloads that follow. -/
theorem calls_hearAll_of_ok {s : Listener σ} (hs : s.stage = .handshaking) {answer : Bytes}
    {response : Session.Response} (h : Session.Response.decode answer = .ok response)
    (payloads : List Bytes) (fault : Option Fault) :
    ∃ n ≤ payloads.length,
      (s.hearAll (answer :: payloads) fault).moves.filterMap Move.call? =
        .connected response :: (payloads.take n).map .frame ∧
      (s.hearAll (answer :: payloads) fault).listener.received =
        min (s.received + (n + 1)) maxCount ∧
      ((s.hearAll (answer :: payloads) fault).fault = none → n = payloads.length) := by
  have hhear : s.hear answer = s.count.accept answer := if_pos hs
  have hmoves : (s.count.accept answer).moves =
      [.answered response (Client.accept s.client response).actions] := by
    rw [accept, h]
    rfl
  have hstage : (s.count.accept answer).listener.stage = .ready := by
    rw [accept, h]
  have hcount : (s.count.accept answer).listener.received = min (s.received + 1) maxCount := by
    rw [accept, h]
    rfl
  rw [hearAll, hhear]
  cases hf : (s.count.accept answer).fault with
  | some refusal =>
    rw [Heard.andThen_of_fault _ hf, hmoves, hcount, hf]
    exact ⟨0, Nat.zero_le _, rfl, rfl, fun hnone => by cases hnone⟩
  | none =>
    have hle : (s.count.accept answer).listener.received ≤ maxCount := by
      rw [hcount]
      exact Nat.min_le_right ..
    obtain ⟨n, hn, hcalls, hreceived, hall⟩ :=
      calls_hearAll (by rw [hstage]; decide) hle payloads fault
    rw [Heard.andThen_of_none _ hf]
    refine ⟨n, hn, ?_, ?_, hall⟩
    · simp only [List.filterMap_append, hcalls, hmoves]
      rfl
    · rw [hreceived, hcount, min_succ_add_min]

end Listener

namespace Link

variable {σ : Type}

/-- The part of the link that frames act on. -/
def listener (l : Link σ) : Listener σ where
  stage := l.stage
  sessionId := l.sessionId
  client := l.client
  pending := l.pending
  received := l.liveness.received

/-- What processing comes to. -/
def processed [Client σ] (l : Link σ) : Heard σ := ⟨l.processMoves, l.process.1.listener, l.process.2⟩

/-- What is left ahead of the decoder, with bytes that arrive later. -/
def aheadWith (l : Link σ) (more : Bytes) : List Bytes × Option Fault :=
  l.decoder.ahead (l.inbox ++ more)

theorem hear_counted [Client σ] (l : Link σ) (payload : Bytes) :
    l.listener.hear payload =
      ⟨l.counted.dispatchMoves payload, (l.counted.dispatch payload).1.listener,
        (l.counted.dispatch payload).2⟩ := by
  have hcount : l.listener.count = l.counted.listener := rfl
  unfold Listener.hear dispatchMoves dispatch
  rw [hcount]
  by_cases hs : l.stage = .handshaking
  · have hl : l.listener.stage = .handshaking := hs
    have hc : l.counted.stage = .handshaking := hs
    rw [if_pos hl, if_pos hc, if_pos hc]
    unfold Listener.accept accept
    cases Session.Response.decode payload with
    | error cause => rfl
    | ok response => rfl
  · have hl : ¬l.listener.stage = .handshaking := hs
    have hc : ¬l.counted.stage = .handshaking := hs
    rw [if_neg hl, if_neg hc, if_neg hc]
    rfl

theorem aheadWith_eq (l : Link σ) (more : Bytes) :
    l.aheadWith more = (l.decoder.next l.inbox).found.before (l.decoded.aheadWith more) :=
  l.decoder.ahead_next l.inbox more

theorem processed_frame [Client σ] {l : Link σ} {payload : Bytes}
    (h : (l.decoder.next l.inbox).found = .frame payload) :
    l.processed =
      (l.listener.hear payload).andThen (l.counted.dispatch payload).1.processed := by
  unfold processed
  rw [hear_counted]
  cases hd : (l.counted.dispatch payload).2 with
  | some fault =>
    rw [process_refused h hd, processMoves_refused h hd]
    rfl
  | none =>
    rw [process_next h hd, processMoves_next h hd]
    rfl

/-- **Processing does what the payloads ahead of the decoder do**, and leaves to later what is not
complete. -/
theorem hearAll_process [Client σ] (l : Link σ) (more : Bytes) :
    l.listener.hearAll (l.aheadWith more).1 (l.aheadWith more).2 =
      l.processed.andThen (l.process.1.listener.hearAll (l.process.1.aheadWith more).1
        (l.process.1.aheadWith more).2) := by
  induction l using process_rec with
  | incomplete l h =>
    unfold processed
    rw [aheadWith_eq, process_eq, processMoves_eq, h]
    rfl
  | invalid l fault h =>
    unfold processed
    rw [aheadWith_eq, process_eq, processMoves_eq, h]
    rfl
  | refused l payload fault h hd =>
    have hfault : (l.listener.hear payload).fault = some fault := by rw [hear_counted, hd]
    rw [aheadWith_eq, h, processed_frame h]
    simp only [Frame.Found.before, Listener.hearAll, Heard.andThen_of_fault _ hfault]
  | next l payload h hd ih =>
    have hrest : (l.counted.dispatch payload).1.aheadWith more = l.decoded.aheadWith more := by
      unfold aheadWith
      rw [decoder_dispatch, inbox_dispatch]
      rfl
    have hlistener : (l.listener.hear payload).listener =
        (l.counted.dispatch payload).1.listener := by rw [hear_counted]
    rw [aheadWith_eq, h, processed_frame h, Heard.andThen_assoc, process_next h hd, ← ih, hrest,
      ← hlistener]
    rfl

/-- What is left ahead of the decoder when processing ends without a fault is not complete. -/
theorem ahead_process [Client σ] {l : Link σ} (h : l.process.2 = none) :
    l.process.1.aheadWith [] = ([], none) := by
  induction l using process_rec with
  | incomplete l hfound =>
    rw [process_eq, hfound, aheadWith, List.append_nil]
    exact Frame.Decoder.ahead_of_incomplete hfound
  | invalid l fault hfound =>
    rw [process_eq, hfound] at h
    cases h
  | refused l payload fault hfound hd =>
    rw [process_refused hfound hd] at h
    cases h
  | next l payload hfound hd ih =>
    rw [process_next hfound hd] at h ⊢
    exact ih h

/-! ## Pieces -/

/-- Bytes arrive in pieces, and each of them is processed, up to the first fault. -/
def feed [Client σ] (l : Link σ) : List Bytes → Link σ × Option Fault
  | [] => (l, none)
  | piece :: pieces =>
    match (l.heard piece).process with
    | (after, none) => after.feed pieces
    | (after, some fault) => (after, some fault)

/-- What feeding comes to, move by move. -/
def feedMoves [Client σ] (l : Link σ) : List Bytes → List Move
  | [] => []
  | piece :: pieces =>
    (l.heard piece).processMoves ++
      if (l.heard piece).process.2.isNone then (l.heard piece).process.1.feedMoves pieces else []

/-- What feeding comes to. -/
def fed [Client σ] (l : Link σ) (pieces : List Bytes) : Heard σ :=
  ⟨l.feedMoves pieces, (l.feed pieces).1.listener, (l.feed pieces).2⟩

theorem fed_cons [Client σ] (l : Link σ) (piece : Bytes) (pieces : List Bytes) :
    l.fed (piece :: pieces) =
      (l.heard piece).processed.andThen ((l.heard piece).process.1.fed pieces) := by
  unfold fed processed Heard.andThen
  rw [feed, feedMoves]
  cases hp : (l.heard piece).process with
  | mk after fault =>
    cases fault with
    | some fault => simp
    | none => simp

/-- **The pieces do not matter**, as long as nothing complete is left at the start. -/
theorem fed_eq_hearAll_ahead [Client σ] {l : Link σ} (h : l.aheadWith [] = ([], none))
    (pieces : List Bytes) :
    l.fed pieces =
      l.listener.hearAll (l.aheadWith pieces.flatten).1 (l.aheadWith pieces.flatten).2 := by
  induction pieces generalizing l with
  | nil =>
    rw [List.flatten_nil, h]
    rfl
  | cons piece pieces ih =>
    have hheard : l.aheadWith (piece :: pieces).flatten =
        (l.heard piece).aheadWith pieces.flatten := by
      rw [List.flatten_cons, aheadWith, ← List.append_assoc]
      rfl
    have hlistener : l.listener = (l.heard piece).listener := rfl
    rw [fed_cons, hheard, hlistener, hearAll_process]
    cases hp : (l.heard piece).process.2 with
    | some fault => rw [Heard.andThen_of_fault _ hp, Heard.andThen_of_fault _ hp]
    | none => rw [ih (ahead_process hp)]

/-! ## New connections -/

/-- No operation changes the settings, nor the bound that the decoder holds frames to. -/
theorem limit_dispatch [Client σ] (l : Link σ) (payload : Bytes) :
    (l.dispatch payload).1.settings = l.settings ∧
      (l.dispatch payload).1.decoder.limit = l.decoder.limit := by
  refine ⟨?_, by rw [decoder_dispatch]⟩
  unfold dispatch accept
  split
  · split <;> rfl
  · rfl

theorem limit_process [Client σ] (l : Link σ) :
    l.process.1.settings = l.settings ∧ l.process.1.decoder.limit = l.decoder.limit := by
  induction l using process_rec with
  | incomplete l h | invalid l fault h =>
    rw [process_eq, h]
    exact ⟨rfl, l.decoder.limit_next l.inbox⟩
  | refused l payload fault h hd =>
    obtain ⟨hs, hl⟩ := l.counted.limit_dispatch payload
    rw [process_refused h hd]
    exact ⟨hs, hl.trans (l.decoder.limit_next l.inbox)⟩
  | next l payload h hd ih =>
    obtain ⟨hs, hl⟩ := l.counted.limit_dispatch payload
    rw [process_next h hd]
    exact ⟨ih.1.trans hs, ih.2.trans (hl.trans (l.decoder.limit_next l.inbox))⟩

theorem limit_step [Client σ] (l : Link σ) (op : Op) :
    (l.step op).1.settings = l.settings ∧ (l.step op).1.decoder.limit = l.decoder.limit := by
  cases op with
  | process => exact l.limit_process
  | connect e =>
    simp only [step, connect]
    split <;> exact ⟨rfl, rfl⟩
  | _ => exact ⟨rfl, rfl⟩

theorem limit_run [Client σ] (l : Link σ) (ops : List Op) :
    (l.run ops).settings = l.settings ∧ (l.run ops).decoder.limit = l.decoder.limit := by
  induction ops generalizing l with
  | nil => exact ⟨rfl, rfl⟩
  | cons op ops ih =>
    obtain ⟨hs, hl⟩ := l.limit_step op
    obtain ⟨hs', hl'⟩ := ih (l.step op).1
    exact ⟨hs'.trans hs, hl'.trans hl⟩

/-- Nothing that was read before is ahead of a link that has just come up. -/
theorem aheadWith_established [Client σ] {l begun up : Link σ} {e : Endpoint}
    {localEnd : Option Endpoint} {now : Nanos} (hc : l.connect e = (begun, none))
    (hu : begun.established localEnd now = (up, none)) (bytes : Bytes) :
    up.aheadWith bytes = Frame.cut l.decoder.limit bytes ∧ up.stage = .handshaking := by
  unfold connect at hc
  split at hc
  · cases hc
  · cases hc
    obtain rfl : _ = up := congrArg Prod.fst hu
    exact ⟨rfl, rfl⟩

/-- **A client hears the payloads of all bytes together.**
    However often the link was connected before and whatever was left half read: once it is
    connected again and the stream is open, bytes that come in pieces of any size do to the client,
    to the counter and to the outcome what cutting all of them at once does.  If the first payload
    cannot be read as an answer, nobody is called; if it can, the client is told of it first and
    then handed the payloads that follow, in order and each once, up to the first fault. -/
theorem fed_eq_hearAll [Client σ] (settings : Settings) (client : σ) (ops : List Op)
    (e : Endpoint) (localEnd : Option Endpoint) (now : Nanos) (pieces : List Bytes)
    {begun up : Link σ} (hc : ((new settings client).run ops).connect e = (begun, none))
    (hu : begun.established localEnd now = (up, none)) :
    up.fed pieces =
      up.listener.hearAll (Frame.cut settings.frameLimit pieces.flatten).1
        (Frame.cut settings.frameLimit pieces.flatten).2 ∧
    up.stage = .handshaking ∧
    match (Frame.cut settings.frameLimit pieces.flatten).1 with
    | [] => up.fed pieces =
      ⟨[], up.listener, (Frame.cut settings.frameLimit pieces.flatten).2⟩
    | answer :: payloads =>
      match Session.Response.decode answer with
      | .error cause => up.fed pieces = ⟨[], up.listener.count, some (.handshake cause)⟩
      | .ok response => ∃ n ≤ payloads.length,
        (up.feedMoves pieces).filterMap Move.call? =
          .connected response :: (payloads.take n).map .frame ∧
        (up.feed pieces).1.liveness.received = min (up.liveness.received + (n + 1)) maxCount ∧
        ((up.feed pieces).2 = none → n = payloads.length) := by
  have hlimit : ((new settings client).run ops).decoder.limit = settings.frameLimit :=
    ((new settings client).limit_run ops).2
  have fresh := aheadWith_established hc hu
  rw [hlimit] at fresh
  have hfed : up.fed pieces = up.listener.hearAll (Frame.cut settings.frameLimit pieces.flatten).1
      (Frame.cut settings.frameLimit pieces.flatten).2 := by
    rw [fed_eq_hearAll_ahead, (fresh _).1]
    rw [(fresh []).1, Frame.cut_eq]
    rfl
  refine ⟨hfed, (fresh []).2, ?_⟩
  cases hcut : (Frame.cut settings.frameLimit pieces.flatten).1 with
  | nil =>
    rw [hfed, hcut]
    rfl
  | cons answer payloads =>
    rw [hcut] at hfed
    cases hanswer : Session.Response.decode answer with
    | error cause =>
      simp only [hanswer]
      exact hfed.trans (Listener.hearAll_of_error (fresh []).2 hanswer ..)
    | ok response =>
      have calls := Listener.calls_hearAll_of_ok (s := up.listener) (fresh []).2 hanswer payloads
        (Frame.cut settings.frameLimit pieces.flatten).2
      rw [← hfed] at calls
      simp only [hanswer]
      exact calls

/-- A connection that is lost in the middle of a frame. -/
def torn : List Op :=
  [.connect ⟨.v4 0, 0⟩, .established none 0, .fill, .heard [0, 0, 0, 40, 0, 0], .process]

/-- An answer to the connect request and a notification, cut in the middle of the length of the
    second. -/
def pieces : List Bytes :=
  [SessionKeeper.greeting ++ [0, 0],
    [0, 16] ++ Bytes.ofInt32 (-1) ++ List.replicate 12 0]

theorem calls_torn :
    ∃ begun up : Link SessionKeeper,
      ((new {} SessionKeeper.anew).run torn).connect ⟨.v4 0, 0⟩ = (begun, none) ∧
      begun.established none 0 = (up, none) ∧
      (up.feedMoves pieces).filterMap Move.call? =
        [.connected SessionKeeper.granted,
          .frame (Bytes.ofInt32 (-1) ++ List.replicate 12 0)] := by
  let begun := (((new {} SessionKeeper.anew).run torn).connect ⟨.v4 0, 0⟩).1
  have hc : ((new {} SessionKeeper.anew).run torn).connect ⟨.v4 0, 0⟩ = (begun, none) :=
    Prod.ext rfl (by decide +kernel)
  have hu : begun.established none 0 = ((begun.established none 0).1, none) :=
    Prod.ext rfl rfl
  have heard := (fed_eq_hearAll {} SessionKeeper.anew torn ⟨.v4 0, 0⟩ none 0 pieces hc hu).1
  refine ⟨begun, _, hc, hu, ?_⟩
  show ((begun.established none 0).1.fed pieces).moves.filterMap Move.call? = _
  rw [heard]
  decide +kernel

end Link

end Reconnect
