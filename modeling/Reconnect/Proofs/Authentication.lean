import Reconnect.Proofs.Draining
import Reconnect.Proofs.Gate

/-!
# What the end of authentication lets through

Where authentication is required, a connection starts with its gate closed.  The session keeper
opens it when the server replies to an authentication packet.  It does not look at the error code of
that reply: the gate stands for an exchange that is under way, not for its success.

## Protocol

* The turns of the current connection are those since a connection was last begun; the bytes that
  have arrived on it are those heard in these turns.
* A reply ends authentication if its header has the transaction id kept for authentication.
* A run is timely if streams open only while an attempt is under way.

## Results

* `Flow.Path.released`: a gate that is closed with every new connection is open only if somebody has
  opened it on the current one.
* `Link.Heeds.step`: what is handed to the client came in on the current connection.
* `Link.framed_authenticated`: **where authentication is required and only the session keeper opens
  the gate, no application packet leaves the queue before a reply that ends authentication has
  arrived on the same connection and was handed over.**
* `Link.framed_refused`: such a reply may tell that authentication has failed.
-/

namespace Reconnect

theorem Control.Action.gate?_eq_false_iff {a : Action} : a.gate? = some false ↔ a = .endAuth := by
  cases a <;> simp [gate?]

/-- What is taken out of a queue is of a permitted kind. -/
theorem Queue.permitted_of_mem_popMany {permitted : Kind → Bool} {n : Nat} {q : Queue} {p : Packet}
    (h : p ∈ (popMany permitted n q).1) : permitted p.kind = true := by
  induction n generalizing q with
  | zero => cases h
  | succ n ih =>
    unfold popMany at h
    split at h
    · cases h
    · rename_i first rest hpop
      rcases List.mem_cons.mp h with rfl | h
      · exact (pop_eq_some_iff.mp hpop).1
      · exact ih h

namespace Move

/-- The frame that the client is handed. -/
def frame? : Move → Option Bytes
  | received _ frame _ => some frame
  | _ => none

/-- A stream opens only while an attempt is under way. -/
def timely : Move → Bool
  | opened before _ => before = .connecting
  | _ => true

theorem mem_of_mem_current {h : List Move} {m : Move} (hm : m ∈ current h) : m ∈ h :=
  (List.rtakeWhile_suffix _ _).subset hm

theorem begins_of_mem_current {h : List Move} {m : Move} (hm : m ∈ current h) :
    m.begins = false := by
  have hkept := List.mem_rtakeWhile_imp hm
  simpa using hkept

/-- Moves that begin nothing belong to the current connection. -/
theorem current_append {h k : List Move} (hk : ∀ m ∈ k, m.begins = false) :
    current (h ++ k) = current h ++ k := by
  induction k using List.reverseRecOn with
  | nil => rw [List.append_nil, List.append_nil]
  | append_singleton k m ih =>
    have hm : m.begins = false := hk m (by simp)
    have hrest : ∀ m' ∈ k, m'.begins = false := fun m' hm' => hk m' (by simp [hm'])
    rw [← List.append_assoc, current_concat, hm, ih hrest, ← List.append_assoc]
    rfl

end Move

namespace Flow

/-! ## Who has opened the gate -/

/-- A gate that is open on a connection was opened on it. -/
def Released (h : List Move) (f : Flow) : Prop :=
  f.control.authPending = false → (∃ b, .began b ∈ h) → ∃ m ∈ Move.current h, false ∈ m.gates

theorem Step.released {f g : Flow} {h : List Move} {m : Move} (s : Step f m g)
    (released : Released h f) (hclosed : ∀ b, m = .began b → b = true) : Released (h ++ [m]) g := by
  intro hopen hbegun
  have hgate := s.authPending
  rw [hopen] at hgate
  rw [Move.current_concat]
  cases hb : m.begins with
  | true =>
    -- the connection has just been begun, with its gate closed
    cases m with
    | began b =>
      obtain rfl := hclosed b rfl
      cases hgate
    | _ => cases hb
  | false =>
    cases hlast : m.gates.getLast? with
    | some b =>
      rw [hlast, Option.getD_some] at hgate
      subst hgate
      exact ⟨m, by simp, List.mem_of_getLast? hlast⟩
    | none =>
      rw [hlast, Option.getD_none] at hgate
      have hbefore : ∃ b, .began b ∈ h := by
        obtain ⟨b, hin⟩ := hbegun
        rcases List.mem_append.mp hin with hin | hin
        · exact ⟨b, hin⟩
        · obtain rfl := List.mem_singleton.mp hin
          cases hb
      obtain ⟨m', hm', hfalse⟩ := released hgate.symm hbefore
      exact ⟨m', by simp [hm'], hfalse⟩

theorem Path.released {f g : Flow} {h : List Move} (path : Path f h g)
    (hclosed : ∀ b, .began b ∈ h → b = true) : Released h g := by
  have moves : ∀ m ∈ h, ∀ b, m = .began b → b = true := by
    rintro m hm b rfl
    exact hclosed b hm
  refine path.invariant moves ?_ fun released hm s => s.released released hm
  rintro - ⟨b, hb⟩
  cases hb

/-! ## Connections that are not given up -/

/-- A connection that is under way was not given up since it was begun. -/
def Unbroken (h : List Move) (f : Flow) : Prop :=
  f.stage = .connecting ∨ f.stage = .handshaking ∨ f.stage = .ready →
    ∀ lost, .reset lost ∉ Move.current h

theorem Step.unbroken {f g : Flow} {h : List Move} {m : Move} (s : Step f m g)
    (unbroken : Unbroken h f) (htimely : m.timely = true) : Unbroken (h ++ [m]) g := by
  intro hg lost hlost
  rw [Move.current_concat] at hlost
  have kept (hb : m.begins = false) (hm : ∀ lost, m ≠ .reset lost)
      (hf : f.stage = .connecting ∨ f.stage = .handshaking ∨ f.stage = .ready) : False := by
    rw [hb] at hlost
    rcases List.mem_append.mp hlost with hold | hnew
    · exact unbroken hf lost hold
    · exact hm lost (List.mem_singleton.mp hnew).symm
  cases s with
  | began b => cases hlost
  | opened actions =>
    have hc : f.stage = .connecting := by simpa [Move.timely] using htimely
    exact kept rfl (by simp) (.inl hc)
  | answered response actions hs => exact kept rfl (by simp) (.inr (.inl hs))
  | reset =>
    dsimp only at hg
    split at hg <;> simp at hg
  | closed => simp at hg
  | received pending frame actions _ | steered actions | calmed | framed hpop | pushed p
  | finished ho | handed hw => exact kept rfl (by simp) hg

theorem Path.unbroken {f g : Flow} {h : List Move} (path : Path f h g)
    (htimely : ∀ m ∈ h, m.timely = true) : Unbroken h g := by
  refine path.invariant htimely ?_ fun unbroken hm s => s.unbroken unbroken hm
  intro _ lost hlost
  cases hlost

end Flow

/-! ## What a decoder finds is in the buffer -/

namespace Frame.Decoder

theorem payload_infix (d : Decoder) (n : Nat) (buffer : Bytes) :
    (d.payload n buffer).rest <:+ buffer ∧
      ∀ front, (d.payload n buffer).found = .frame front → front <:+: buffer := by
  obtain ⟨front, rest, h, rfl⟩ | h := d.payload_eq_or n buffer
  · rw [h]
    refine ⟨List.suffix_append front rest, fun front' hfront => ?_⟩
    obtain rfl := Found.frame.inj hfront
    exact (List.prefix_append front rest).isInfix
  · rw [h]
    exact ⟨List.suffix_refl buffer, fun front hfront => by cases hfront⟩

theorem next_infix (d : Decoder) (buffer : Bytes) :
    (d.next buffer).rest <:+ buffer ∧
      ∀ front, (d.next buffer).found = .frame front → front <:+: buffer := by
  unfold next
  split
  · exact d.payload_infix _ buffer
  · split
    · exact ⟨List.suffix_refl buffer, fun front hfront => by cases hfront⟩
    · rename_i head rest hsplit
      obtain ⟨rfl, -⟩ := Bytes.split?_eq_some_iff.mp hsplit
      have hrest : rest <:+ head ++ rest := List.suffix_append head rest
      split
      · exact ⟨hrest, fun front hfront => by cases hfront⟩
      · obtain ⟨hleft, hfound⟩ := d.payload_infix _ rest
        exact ⟨hleft.trans hrest, fun front hfront => (hfound front hfront).trans hrest.isInfix⟩

end Frame.Decoder

namespace Link

variable {σ : Type} [Client σ]

theorem frame_of_mem_dispatchMoves {l : Link σ} {payload frame : Bytes} {m : Move}
    (hm : m ∈ l.dispatchMoves payload) (hframe : m.frame? = some frame) :
    frame = payload := by
  unfold dispatchMoves at hm
  split at hm
  · split at hm
    · cases hm
    · obtain rfl := List.mem_singleton.mp hm
      cases hframe
  · obtain rfl := List.mem_singleton.mp hm
    exact (Option.some.inj hframe).symm

/-- Processing leaves an end of the inbox, and every frame that it hands over was in there. -/
theorem process_infix (l : Link σ) :
    l.process.1.inbox <:+ l.inbox ∧
      ∀ m ∈ l.processMoves, ∀ frame, m.frame? = some frame → frame <:+: l.inbox := by
  induction l using process_rec with
  | incomplete l hfound | invalid l fault hfound =>
    rw [process_eq, processMoves_eq, hfound]
    exact ⟨(l.decoder.next_infix l.inbox).1, fun m hm => by cases hm⟩
  | refused l payload fault hfound hd =>
    obtain ⟨hrest, htaken⟩ := l.decoder.next_infix l.inbox
    rw [process_refused hfound hd, processMoves_refused hfound hd, inbox_dispatch]
    refine ⟨hrest, fun m hm frame hframe => ?_⟩
    rw [frame_of_mem_dispatchMoves hm hframe]
    exact htaken payload hfound
  | next l payload hfound hd ih =>
    obtain ⟨hrest, htaken⟩ := l.decoder.next_infix l.inbox
    rw [process_next hfound hd, processMoves_next hfound hd]
    rw [inbox_dispatch] at ih
    refine ⟨ih.1.trans hrest, fun m hm frame hframe => ?_⟩
    rcases List.mem_append.mp hm with hm | hm
    · rw [frame_of_mem_dispatchMoves hm hframe]
      exact htaken payload hfound
    · exact (ih.2 m hm frame hframe).trans hrest.isInfix

/-! ## Bytes that arrive on a connection -/

/-- The bytes that an operation hears. -/
def Op.incoming : Op → Bytes
  | .heard data => data
  | _ => []

/-- A connection is begun. -/
def Turn.begins (t : Turn σ) : Bool := (t.link.moves t.op).any Move.begins

/-- The turns since a connection was last begun. -/
def Turn.current (h : List (Turn σ)) : List (Turn σ) := h.rtakeWhile fun t => !t.begins

theorem Turn.current_concat (h : List (Turn σ)) (t : Turn σ) :
    current (h ++ [t]) = if t.begins then [] else current h ++ [t] :=
  rtakeWhile_not_concat Turn.begins h t

/-- The bytes that have arrived since a connection was last begun. -/
def arrived (l : Link σ) (ops : List Op) : Bytes :=
  (Turn.current (l.turns ops)).flatMap fun t => t.op.incoming

theorem arrived_concat (l : Link σ) (ops : List Op) (op : Op) :
    l.arrived (ops ++ [op]) =
      if (⟨l.run ops, op⟩ : Turn σ).begins then [] else l.arrived ops ++ op.incoming := by
  have hlast : (l.run ops).turns [op] = [⟨l.run ops, op⟩] := rfl
  rw [arrived, turns_append, hlast, Turn.current_concat]
  split
  · rfl
  · rw [List.flatMap_append, List.flatMap_singleton]
    rfl

/-- A connection is begun by `connect` alone, which gives up the old one first. -/
theorem connect_of_begins {l : Link σ} {op : Op} (h : (⟨l, op⟩ : Turn σ).begins = true) :
    l.moves op = [.reset l.written, .began l.settings.authRequired] ∧ (l.step op).1.inbox = [] := by
  obtain ⟨m, hm, hb⟩ := List.any_eq_true.mp h
  cases op with
  | connect e =>
    simp only [moves, step, connect] at hm ⊢
    split
    · rename_i hclosed
      rw [if_pos hclosed] at hm
      cases hm
    · exact ⟨rfl, rfl⟩
  | process =>
    have hcalls := l.calls_processMoves m hm
    cases m with
    | answered response actions | received pending frame actions => cases hb
    | _ => cases hcalls
  | fill | wrote n | handOver =>
    obtain ⟨p, -, rfl⟩ := List.mem_map.mp hm
    cases hb
  | established localEnd now | pushAhead p | reset | steer actions | calm =>
    obtain rfl := List.mem_singleton.mp hm
    cases hb
  | close =>
    rcases List.mem_cons.mp hm with rfl | hm
    · cases hb
    · obtain rfl := List.mem_singleton.mp hm
      cases hb
  | makeRoom | heard data | tick now | abandonPending => cases hm

/-- An operation leaves an end of the inbox and of what it hears. -/
theorem inbox_step_suffix (l : Link σ) (op : Op) :
    (l.step op).1.inbox <:+ l.inbox ++ op.incoming := by
  cases op with
  | heard data => exact List.suffix_refl _
  | process =>
    simp only [Op.incoming, List.append_nil]
    exact l.process_infix.1
  | connect e =>
    simp only [Op.incoming, List.append_nil, step, connect]
    split
    · exact List.suffix_refl _
    · exact List.nil_suffix
  | reset | close => exact List.nil_suffix
  | _ =>
    simp only [Op.incoming, List.append_nil]
    exact List.suffix_refl _

/-- A frame that an operation hands over was in the inbox. -/
theorem frame_infix_inbox {l : Link σ} {op : Op} {m : Move} {frame : Bytes} (hm : m ∈ l.moves op)
    (hframe : m.frame? = some frame) : frame <:+: l.inbox := by
  have hcalls : m.calls = true := by
    cases m with
    | answered response actions | received pending payload actions => rfl
    | _ => cases hframe
  obtain rfl := process_of_calls hm hcalls
  exact l.process_infix.2 m hm frame hframe

/-- What is read and what was handed over came in on the current connection. -/
structure Heeds (h : List Move) (arrived : Bytes) (l : Link σ) : Prop where
  inbox : l.inbox <:+ arrived
  frames : ∀ m ∈ Move.current h, ∀ frame, m.frame? = some frame → frame <:+: arrived

theorem Heeds.step {h : List Move} {arrived : Bytes} {l : Link σ} (heeds : Heeds h arrived l)
    (op : Op) :
    Heeds (h ++ l.moves op)
      (if (⟨l, op⟩ : Turn σ).begins then [] else arrived ++ op.incoming) (l.step op).1 := by
  cases hb : (⟨l, op⟩ : Turn σ).begins with
  | true =>
    obtain ⟨hmoves, hinbox⟩ := connect_of_begins hb
    rw [hmoves, List.append_cons]
    refine ⟨by rw [hinbox]; exact List.nil_suffix, fun m hm => ?_⟩
    rw [Move.current_concat] at hm
    cases hm
  | false =>
    have hnone : ∀ m ∈ l.moves op, m.begins = false := by simpa [Turn.begins] using hb
    obtain ⟨gone, hgone⟩ := heeds.inbox
    refine ⟨(l.inbox_step_suffix op).trans ⟨gone, ?_⟩, fun m hm frame hframe => ?_⟩
    · rw [← List.append_assoc, hgone]
      rfl
    · have hold : arrived <:+: arrived ++ op.incoming := (List.prefix_append _ _).isInfix
      rw [Move.current_append hnone] at hm
      rcases List.mem_append.mp hm with hm | hm
      · exact (heeds.frames m hm frame hframe).trans hold
      · have hinbox := frame_infix_inbox hm hframe
        exact (hinbox.trans heeds.inbox.isInfix).trans hold

theorem heeds_run (settings : Settings) (client : σ) (ops : List Op) :
    Heeds ((new settings client).course ops) ((new settings client).arrived ops)
      ((new settings client).run ops) := by
  induction ops using List.reverseRecOn with
  | nil => exact ⟨List.suffix_refl _, fun m hm => by cases hm⟩
  | append_singleton ops op ih =>
    have hlast : ((new settings client).run ops).course [op] =
        ((new settings client).run ops).moves op := List.append_nil _
    rw [course_append, hlast, run_append, arrived_concat]
    exact ih.step op

/-! ## The gate of a session keeper -/

/-- The settings decide how the gate stands when a connection is begun. -/
theorem began_course {l : Link σ} {ops : List Op} {b : Bool} (h : .began b ∈ l.course ops) :
    b = l.settings.authRequired := by
  induction ops generalizing l with
  | nil => cases h
  | cons op ops ih =>
    rcases List.mem_append.mp h with h | h
    · have hb : (⟨l, op⟩ : Turn σ).begins = true := List.any_eq_true.mpr ⟨_, h, rfl⟩
      rw [(connect_of_begins hb).1] at h
      simpa using h
    · rw [ih h, settings_step]

/-- A packet that leaves the queue was let through. -/
theorem passes_of_framed {l : Link σ} {op : Op} {p : Packet} (h : .framed p ∈ l.moves op) :
    l.passes p.kind = true := by
  by_cases hfill : op = .fill
  · subst hfill
    obtain ⟨p', hin, hp'⟩ := List.mem_map.mp h
    obtain rfl : p' = p := Move.framed.inj hp'
    exact Queue.permitted_of_mem_popMany hin
  · have hnone := l.drained_moves hfill
    rw [Move.drained, List.countP_eq_zero] at hnone
    exact (hnone _ h rfl).elim

end Link

namespace SessionKeeper

/-- The session keeper opens the gate for a reply to an authentication packet, and for nothing
else. -/
theorem header_of_endAuth {k : SessionKeeper} {pending : List Packet} {frame : Bytes}
    (h : Control.Action.endAuth ∈ (k.receive pending frame).1.actions) :
    ∃ header, ReplyHeader.ofFrame? frame = some header ∧ header.xid = Reserved.auth.xid := by
  unfold receive at h
  split at h
  · cases h
  · rename_i header hheader
    refine ⟨header, hheader, ?_⟩
    dsimp only at h
    split at h
    · cases h
    · cases h
    · rename_i hauth
      unfold Reserved.ofXid? at hauth
      split at hauth
      · cases hauth
      · split at hauth
        · cases hauth
        · split at hauth
          · assumption
          · cases hauth
    · unfold answer at h
      split at h
      · cases h
      · split at h <;> cases h

theorem endAuth_not_mem_accept (k : SessionKeeper) (response : Session.Response) :
    Control.Action.endAuth ∉ (k.accept response).actions := by
  unfold accept
  split <;> simp

end SessionKeeper

/-- A reply to an authentication packet is handed over, whatever it tells. -/
def Move.EndsAuth (m : Move) (frame : Bytes) (header : ReplyHeader) : Prop :=
  m.frame? = some frame ∧
    ReplyHeader.ofFrame? frame = some header ∧ header.xid = Reserved.auth.xid

namespace Link

theorem endsAuth_of_dispatch {l : Link SessionKeeper} {payload : Bytes} {m : Move}
    (hm : m ∈ l.dispatchMoves payload) (hfalse : false ∈ m.gates) :
    ∃ frame header, m.EndsAuth frame header := by
  unfold dispatchMoves at hm
  split at hm
  · split at hm
    · cases hm
    · obtain rfl := List.mem_singleton.mp hm
      obtain ⟨a, ha, hgate⟩ := List.mem_filterMap.mp hfalse
      obtain rfl := Control.Action.gate?_eq_false_iff.mp hgate
      exact (l.client.endAuth_not_mem_accept _ ha).elim
  · obtain rfl := List.mem_singleton.mp hm
    obtain ⟨a, ha, hgate⟩ := List.mem_filterMap.mp hfalse
    obtain rfl := Control.Action.gate?_eq_false_iff.mp hgate
    obtain ⟨header, hheader, hxid⟩ := SessionKeeper.header_of_endAuth ha
    exact ⟨payload, header, rfl, hheader, hxid⟩

/-- If the holders of the control do not open the gate, a session keeper does so only when a reply
to an authentication packet is handed over. -/
theorem endsAuth_of_move {l : Link SessionKeeper} {op : Op} {m : Move} (hm : m ∈ l.moves op)
    (hsteer : ∀ actions, op = .steer actions → .endAuth ∉ actions) (hb : m.begins = false)
    (hfalse : false ∈ m.gates) : ∃ frame header, m.EndsAuth frame header := by
  cases op with
  | process => exact mem_processMoves (fun _ _ _ => endsAuth_of_dispatch) l m hm hfalse
  | steer actions =>
    obtain rfl := List.mem_singleton.mp hm
    obtain ⟨a, ha, hgate⟩ := List.mem_filterMap.mp hfalse
    obtain rfl := Control.Action.gate?_eq_false_iff.mp hgate
    exact (hsteer actions rfl ha).elim
  | connect e =>
    simp only [moves] at hm
    split at hm
    · cases hm
    · rcases List.mem_cons.mp hm with rfl | hm
      · cases hfalse
      · obtain rfl := List.mem_singleton.mp hm
        cases hb
  | fill | wrote n | handOver =>
    obtain ⟨p, -, rfl⟩ := List.mem_map.mp hm
    cases hfalse
  | close =>
    rcases List.mem_cons.mp hm with rfl | hm
    · cases hfalse
    · obtain rfl := List.mem_singleton.mp hm
      cases hfalse
  | established localEnd now | pushAhead p | reset | calm =>
    obtain rfl := List.mem_singleton.mp hm
    cases hfalse
  | makeRoom | heard data | tick now | abandonPending => cases hm

/-- **Where authentication is required, no application packet leaves the queue before the exchange
    has ended.**
    If only the session keeper opens the gate, then on a connection that was begun every application
    packet leaves the queue after a reply to an authentication packet was handed over on this very
    connection; all bytes of that reply have arrived on it.  What the reply tells does not matter.
    If streams open only while an attempt is under way, the connection was not given up in
    between. -/
theorem framed_authenticated (settings : Settings) (k : SessionKeeper) (ops : List Op) {op : Op}
    {p : Packet} (hrequired : settings.authRequired = true)
    (hsteer : ∀ actions, .steer actions ∈ ops → .endAuth ∉ actions)
    (hbegun : ∃ b, .began b ∈ (new settings k).course ops)
    (hframed : .framed p ∈ ((new settings k).run ops).moves op)
    (hp : p.kind.servesApplication = true) :
    (∃ m ∈ Move.current ((new settings k).course ops), ∃ frame header,
      m.EndsAuth frame header ∧ frame <:+: (new settings k).arrived ops) ∧
    ((∀ m ∈ (new settings k).course ops, m.timely = true) →
      ∀ lost, .reset lost ∉ Move.current ((new settings k).course ops)) := by
  have path := (new settings k).path_run ops
  have hpass := passes_of_framed hframed
  rw [passes, Kind.passes_of_servesApplication _ _ hp, Bool.and_eq_true, Bool.not_eq_true'] at hpass
  obtain ⟨hready, hopen⟩ := hpass
  have hclosed : ∀ b, .began b ∈ (new settings k).course ops → b = true := by
    intro b hb
    rw [began_course hb]
    exact hrequired
  obtain ⟨m, hm, hfalse⟩ := path.released hclosed hopen hbegun
  refine ⟨⟨m, hm, ?_⟩, fun htimely => ?_⟩
  · have hends : m.begins = false → false ∈ m.gates → ∃ frame header, m.EndsAuth frame header :=
      mem_course (fun l op hop m hm => endsAuth_of_move hm fun actions hsteered =>
        hsteer actions (hsteered ▸ hop)) m (Move.mem_of_mem_current hm)
    obtain ⟨frame, header, hauth⟩ := hends (Move.begins_of_mem_current hm) hfalse
    exact ⟨frame, header, hauth, (heeds_run settings k ops).frames m hm frame hauth.1⟩
  · exact path.unbroken htimely (.inr (.inr (of_decide_eq_true hready)))

/-- A reply to an authentication packet on the wire. -/
def verdict (err : Int32) : Bytes :=
  Frame.encode (Bytes.ofInt32 Reserved.auth.xid ++ Bytes.ofInt64 0 ++ Bytes.ofInt32 err)

/-- A connection comes up. -/
def upcoming : List Op :=
  [.connect ⟨.v4 0, 0⟩, .established none 0, .fill, .wrote 49, .heard SessionKeeper.greeting,
    .process]

/-- The exchange has ended on two connections one after the other, and a request waits. -/
def decided (err : Int32) : List Op :=
  upcoming ++ [.heard (verdict err), .process] ++ upcoming ++
    [.steer [.submit { kind := .request, xid := 1, body := [] }], .heard (verdict err), .process]

theorem framed_decided :
    (∃ m ∈ Move.current ((new { authRequired := true } SessionKeeper.anew).course (decided 0)),
      ∃ frame header, m.EndsAuth frame header ∧
        frame <:+: (new { authRequired := true } SessionKeeper.anew).arrived (decided 0)) ∧
    ∀ lost, .reset lost ∉
      Move.current ((new { authRequired := true } SessionKeeper.anew).course (decided 0)) := by
  have hbegun : .began true ∈ (new { authRequired := true } SessionKeeper.anew).course (decided 0) := by
    decide +kernel
  have hframed : .framed { kind := .request, xid := 1, body := [] } ∈
      ((new { authRequired := true } SessionKeeper.anew).run (decided 0)).moves .fill := by
    decide +kernel
  have htimely : ∀ m ∈ (new { authRequired := true } SessionKeeper.anew).course (decided 0),
      m.timely = true := by decide +kernel
  obtain ⟨hends, hkept⟩ := framed_authenticated { authRequired := true } SessionKeeper.anew
    (decided 0) rfl (by simp [decided, upcoming]) ⟨true, hbegun⟩ hframed rfl
  exact ⟨hends, hkept htimely⟩

/-- **A request leaves the queue after authentication has failed.** -/
theorem framed_refused :
    .framed { kind := .request, xid := 1, body := [] } ∈
      ((new { authRequired := true } SessionKeeper.anew).run (decided (-115))).moves .fill ∧
    ∀ m ∈ Move.current
        ((new { authRequired := true } SessionKeeper.anew).course (decided (-115))),
      ∀ frame header, m.EndsAuth frame header → header.err ≠ 0 := by
  have hfailed : ∀ m ∈ Move.current
      ((new { authRequired := true } SessionKeeper.anew).course (decided (-115))),
      ∀ frame ∈ m.frame?, ∀ header ∈ ReplyHeader.ofFrame? frame, header.err ≠ 0 := by
    decide +kernel
  refine ⟨by decide +kernel, fun m hm frame header hauth => ?_⟩
  exact hfailed m hm frame hauth.1 header hauth.2.1

end Link

end Reconnect
