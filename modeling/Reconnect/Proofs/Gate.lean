import Reconnect.Proofs.Conservation
import Reconnect.Proofs.Flow

/-!
# What the gates hold back

Nothing but connect requests is framed before the connect request is answered, and application
packets wait on until the gate for them is open.  The gate is set by whoever holds the control, at
any time, and anew with every connection; what is said here is said of the events that have set it,
not of the flag that they leave behind.

## Protocol

* A course is orderly if streams open only while an attempt is under way and nothing is framed past
  the queue.
* The gate is set by the beginning of a connection, by `beginAuth` and by `endAuth`.
* A client leads with its connect request if it puts one in front of the queue when it primes a
  connection, and nobody puts anything else there.

## Results

* `Flow.Path.authPending`: the gate stands as the last event that has set it left it.
* `Flow.Step.stands`, `Flow.Step.leads`: what one move keeps of the progress of a connection, and
  of the connect request in front of the queue.
* `Link.framed_gated`: **in every orderly run, whatever is framed was let through**: the connect
  request was answered on this connection, and the last event that has set the gate opened it.
  The first packet of a connection is a connect request.
-/

namespace Reconnect

/-- A connect request is in front. -/
def Queue.led : Queue → Bool
  | [] => false
  | p :: _ => p.kind = .handshake

theorem Queue.led_append {q : Queue} (more : Queue) (h : q.led = true) :
    Queue.led (q ++ more) = true := by
  cases q with
  | nil => cases h
  | cons p q => exact h

namespace Control

/-- What an action does to the gate: `true` closes it, `false` opens it. -/
def Action.gate? : Action → Option Bool
  | beginAuth => some true
  | endAuth => some false
  | _ => none

/-- The last action that sets the gate decides. -/
theorem authPending_runActions (c : Control) (actions : List Action) :
    (c.runActions actions).authPending =
      (actions.filterMap Action.gate?).getLast?.getD c.authPending := by
  induction actions generalizing c with
  | nil => rfl
  | cons a actions ih =>
    have hact : (c.act a).authPending = a.gate?.getD c.authPending := by cases a <;> rfl
    rw [runActions_cons, ih, hact]
    cases hg : a.gate? with
    | none => rw [List.filterMap_cons_none hg, Option.getD_none]
    | some b =>
      rw [List.filterMap_cons_some hg, List.getLast?_cons, Option.getD_some, Option.getD_some]

theorem led_act {c : Control} {a : Action} (hc : c.queue.led = true)
    (h : ∀ p ∈ a.jumped?, p.kind = .handshake) : (c.act a).queue.led = true := by
  cases a with
  | pushFront p => simpa [Queue.led, act] using h p rfl
  | pushBack p | submit p => exact Queue.led_append [p] hc
  | wake | close | beginAuth | endAuth | prime => exact hc

/-- A connect request stays in front as long as only connect requests get ahead of it. -/
theorem led_runActions {c : Control} {actions : List Action} (hc : c.queue.led = true)
    (h : ∀ p ∈ actions.filterMap Action.jumped?, p.kind = .handshake) :
    (c.runActions actions).queue.led = true := by
  induction actions generalizing c with
  | nil => exact hc
  | cons a actions ih =>
    have hhead : ∀ p ∈ a.jumped?, p.kind = .handshake := fun p hp =>
      h p (List.mem_filterMap.mpr ⟨a, List.mem_cons_self, hp⟩)
    refine ih (led_act hc hhead) fun p hp => ?_
    obtain ⟨b, hb, hbp⟩ := List.mem_filterMap.mp hp
    exact h p (List.mem_filterMap.mpr ⟨b, List.mem_cons_of_mem _ hb, hbp⟩)

/-- Whatever the queue was, the packet that was last put in front of it is in front. -/
theorem led_of_last_jumped {c : Control} {actions : List Action} {p : Packet}
    (h : (actions.filterMap Action.jumped?).getLast? = some p) (hp : p.kind = .handshake) :
    (c.runActions actions).queue.led = true := by
  induction actions generalizing c with
  | nil => cases h
  | cons a actions ih =>
    rw [runActions_cons]
    cases hrest : actions.filterMap Action.jumped? with
    | cons r rest =>
      refine ih ?_
      cases ha : a.jumped? with
      | none => rwa [List.filterMap_cons_none ha] at h
      | some s => rwa [List.filterMap_cons_some ha, hrest, List.getLast?_cons_cons, ← hrest] at h
    | nil =>
      refine led_runActions ?_ (by rw [hrest]; simp)
      cases ha : a.jumped? with
      | none => rw [List.filterMap_cons_none ha, hrest] at h; cases h
      | some s =>
        rw [List.filterMap_cons_some ha, hrest, List.getLast?_singleton, Option.some.injEq] at h
        subst h
        cases a <;> cases ha
        simpa [act, Queue.led] using hp

end Control

namespace Move

/-- What a move does to the gate, in order: `true` closes it, `false` opens it. -/
def gates : Move → List Bool
  | began authRequired => [authRequired]
  | m => m.actions.filterMap Control.Action.gate?

/-- A stream opens only while an attempt is under way, and nothing is framed past the queue. -/
def orderly : Move → Bool
  | opened before _ => before = .connecting
  | pushed _ => false
  | _ => true

/-- The client primes a connection with a connect request in front of the queue, and nobody else
puts anything but connect requests there. -/
def leads : Move → Bool
  | opened _ actions =>
    (actions.filterMap Control.Action.jumped?).getLast?.any fun p => p.kind = .handshake
  | m => m.jumped.all fun p => p.kind = .handshake

end Move

namespace Flow

/-! ## The gate -/

theorem Step.authPending {f g : Flow} {m : Move} (s : Step f m g) :
    g.control.authPending = m.gates.getLast?.getD f.control.authPending := by
  cases s with
  | opened actions | answered response actions | received pending frame actions
  | steered actions => exact f.control.authPending_runActions actions
  | began b | calmed | framed hpop | pushed p | finished ho | handed hw | reset
  | closed => rfl

/-- The gate stands as the last event that has set it left it. -/
theorem Path.authPending {f g : Flow} {h : List Move} (path : Path f h g) :
    g.control.authPending = (h.flatMap Move.gates).getLast?.getD f.control.authPending := by
  induction path with
  | nil => rfl
  | @snoc h g k m _ s ih =>
    rw [s.authPending, ih, List.flatMap_append, List.getLast?_append, Option.getD_or]
    simp

/-! ## The progress of a connection -/

/-- A connection that is under way was begun, and its connect request is answered once it is
ready. -/
structure Stands (h : List Move) (f : Flow) : Prop where
  begun : f.stage = .connecting ∨ f.stage = .handshaking ∨ f.stage = .ready → ∃ b, .began b ∈ h
  answered : f.stage = .ready →
    ∃ response actions, .answered response actions ∈ Move.current h

theorem Stands.concat {f g : Flow} {h : List Move} {m : Move} (stands : Stands h f)
    (hb : m.begins = false) (hg : g.stage = f.stage ∨ g.stage = .disconnected ∨ g.stage = .closed) :
    Stands (h ++ [m]) g := by
  constructor
  · intro hw
    have hf : f.stage = .connecting ∨ f.stage = .handshaking ∨ f.stage = .ready := by
      rcases hg with hg | hg | hg <;> rw [hg] at hw
      · exact hw
      · simp at hw
      · simp at hw
    obtain ⟨b, hmem⟩ := stands.begun hf
    exact ⟨b, List.mem_append_left _ hmem⟩
  · intro hw
    have hf : f.stage = .ready := by
      rcases hg with hg | hg | hg <;> rw [hg] at hw
      · exact hw
      · cases hw
      · cases hw
    obtain ⟨response, actions, hmem⟩ := stands.answered hf
    rw [Move.current_concat, hb]
    exact ⟨response, actions, List.mem_append_left _ hmem⟩

theorem Step.stands {f g : Flow} {h : List Move} {m : Move} (s : Step f m g)
    (stands : Stands h f) (ho : m.orderly = true) : Stands (h ++ [m]) g := by
  cases s with
  | began b => exact ⟨fun _ => ⟨b, by simp⟩, fun hw => by cases hw⟩
  | opened actions =>
    have hc : f.stage = .connecting := by simpa [Move.orderly] using ho
    obtain ⟨b, hmem⟩ := stands.begun (.inl hc)
    exact ⟨fun _ => ⟨b, List.mem_append_left _ hmem⟩, fun hw => by cases hw⟩
  | answered response actions hs =>
    obtain ⟨b, hmem⟩ := stands.begun (.inr (.inl hs))
    refine ⟨fun _ => ⟨b, List.mem_append_left _ hmem⟩, fun _ => ⟨response, actions, ?_⟩⟩
    rw [Move.current_concat]
    simp [Move.begins]
  | reset =>
    refine stands.concat rfl (.inr ?_)
    show (if f.stage = .closed then Stage.closed else Stage.disconnected) = .disconnected ∨ _
    split
    · exact .inr rfl
    · exact .inl rfl
  | closed => exact stands.concat rfl (.inr (.inr rfl))
  | received pending frame actions _ | steered actions | calmed | framed hpop | pushed p
  | finished ho | handed hw => exact stands.concat rfl (.inl rfl)

theorem Path.stands {f g : Flow} {h : List Move} (path : Path f h g)
    (hf : f.stage = .disconnected) (ho : ∀ m ∈ h, m.orderly = true) : Stands h g := by
  refine path.invariant ho ⟨fun hw => ?_, fun hw => ?_⟩ fun stands ho s => s.stands stands ho
  · simp [hf] at hw
  · simp [hf] at hw

/-! ## The first packet of a connection -/

/-- As long as nothing is framed on a connection that is open, a connect request is in front of the
queue. -/
def Leads (h : List Move) (f : Flow) : Prop :=
  (∀ p, .framed p ∉ Move.current h) → f.stage = .handshaking ∨ f.stage = .ready →
    f.control.queue.led = true

theorem Step.leads {f g : Flow} {h : List Move} {m : Move} (s : Step f m g) (leads : Leads h f)
    (hm : m.leads = true) : Leads (h ++ [m]) g := by
  intro hnone hg
  -- a move that begins nothing belongs to the current connection, as all before it did
  have before (hb : m.begins = false) : ∀ p, .framed p ∉ Move.current h := fun p hp =>
    hnone p (by rw [Move.current_concat, hb]; exact List.mem_append_left _ hp)
  have kept {actions : List Control.Action}
      (hj : ∀ p ∈ actions.filterMap Control.Action.jumped?, p.kind = .handshake)
      (hb : m.begins = false) (hf : f.stage = .handshaking ∨ f.stage = .ready) :
      (f.control.runActions actions).queue.led = true :=
    Control.led_runActions (leads (before hb) hf) hj
  cases s with
  | opened actions =>
    obtain ⟨p, hp, hk⟩ := Option.any_eq_true _ _ |>.mp hm
    exact Control.led_of_last_jumped hp (by simpa using hk)
  | answered response actions hs =>
    exact kept (fun p hp => of_decide_eq_true (List.all_eq_true.mp hm p hp)) rfl (.inl hs)
  | received pending frame actions hs | steered actions =>
    exact kept (fun p hp => of_decide_eq_true (List.all_eq_true.mp hm p hp)) rfl hg
  | @framed p rest hpop =>
    refine absurd ?_ (hnone p)
    rw [Move.current_concat]
    simp [Move.begins]
  | reset =>
    have hstage : (if f.stage = .closed then Stage.closed else Stage.disconnected) = .handshaking ∨
        (if f.stage = .closed then Stage.closed else Stage.disconnected) = .ready := hg
    split at hstage <;> simp at hstage
  | began b | closed => simp at hg
  | calmed | pushed p | finished ho | handed hw => exact leads (before rfl) hg

theorem Path.leads {f g : Flow} {h : List Move} (path : Path f h g)
    (hf : f.stage = .disconnected) (hl : ∀ m ∈ h, m.leads = true) : Leads h g :=
  path.invariant hl (fun _ hw => by simp [hf] at hw) fun leads hm s => s.leads leads hm

end Flow

namespace Link

variable {σ : Type}

/-- **Whatever is framed was let through.**
    In every orderly run, at the moment when a packet leaves the queue: if it is no connect
    request, then the connection was begun and its connect request was answered since; if it is an
    application packet, then of the events that have set the gate the last has opened it; and if
    the client leads with its connect requests and nothing was framed on this connection before,
    then it is a connect request. -/
theorem framed_gated [Client σ] (settings : Settings) (client : σ) (ops : List Op)
    {before after : List Move} {p : Packet}
    (hcourse : (new settings client).course ops = before ++ .framed p :: after)
    (ho : ∀ m ∈ before, m.orderly = true) :
    (p.kind ≠ .handshake → (∃ b, .began b ∈ before) ∧
      ∃ response actions, .answered response actions ∈ Move.current before) ∧
    (p.kind.servesApplication = true →
      (before.flatMap Move.gates).getLast? = some false) ∧
    ((∀ m ∈ before, m.leads = true) → (∀ q, .framed q ∉ Move.current before) →
      p.kind = .handshake) := by
  have path := (new settings client).path_run ops
  rw [hcourse] at path
  obtain ⟨f, g, hbefore, hstep, -⟩ := path.at_move
  have stands := hbefore.stands rfl ho
  have gate := hbefore.authPending
  cases hstep with
  | framed hpop =>
    obtain ⟨hpass, front, back, hqueue, -, hfront⟩ := Queue.pop_eq_some_iff.mp hpop
    have ready (hk : p.kind ≠ .handshake) : f.stage = .ready :=
      of_decide_eq_true (Kind.answered_of_passes hk hpass)
    refine ⟨fun hk => ?_, fun hk => ?_, fun hleads hnone => ?_⟩
    · exact ⟨stands.begun (.inr (.inr (ready hk))), stands.answered (ready hk)⟩
    · rw [Flow.passes, Kind.passes_of_servesApplication _ _ hk, Bool.and_eq_true,
        Bool.not_eq_true'] at hpass
      obtain ⟨b, hb⟩ := stands.begun (.inr (.inr (of_decide_eq_true hpass.1)))
      have hset : b ∈ before.flatMap Move.gates :=
        List.mem_flatMap.mpr ⟨.began b, hb, List.mem_singleton_self b⟩
      have hlast := List.getLast?_eq_some_getLast (List.ne_nil_of_mem hset)
      rw [hlast, Option.getD_some, hpass.2] at gate
      rw [hlast, ← gate]
    · by_contra hk
      have hled := hbefore.leads rfl hleads hnone (.inr (ready hk))
      rw [hqueue] at hled
      cases front with
      | nil => exact hk (of_decide_eq_true hled)
      | cons r front =>
        have hr : r.kind = .handshake := of_decide_eq_true hled
        have hblocked := hfront r List.mem_cons_self
        rw [hr] at hblocked
        cases hblocked

/-- A connection of which the gate is closed from the start is lost after its connect request was
    answered; on the next one a request is let through once authentication is over. -/
def reopened : List Op :=
  [.connect ⟨.v4 0, 0⟩, .established none 0, .fill, .wrote 49, .heard SessionKeeper.greeting,
    .process, .connect ⟨.v4 0, 0⟩, .established none 0, .fill, .wrote 49,
    .heard SessionKeeper.greeting, .process,
    .steer [.submit { kind := .request, xid := 1, body := [] }], .fill, .steer [.endAuth]]

theorem gated_reopened :
    (new { authRequired := true } SessionKeeper.anew).course (reopened ++ [.fill]) =
      (new { authRequired := true } SessionKeeper.anew).course reopened ++
        .framed { kind := .request, xid := 1, body := [] } :: [] ∧
    (((new { authRequired := true } SessionKeeper.anew).course reopened).flatMap
      Move.gates).getLast? = some false ∧
    ∃ response actions, .answered response actions ∈
      Move.current ((new { authRequired := true } SessionKeeper.anew).course reopened) := by
  have course : (new { authRequired := true } SessionKeeper.anew).course (reopened ++ [.fill]) =
      (new { authRequired := true } SessionKeeper.anew).course reopened ++
        .framed { kind := .request, xid := 1, body := [] } :: [] := by decide +kernel
  have gated := framed_gated _ _ _ course (by decide +kernel)
  exact ⟨course, gated.2.1 rfl, (gated.1 (by decide)).2⟩

end Link

end Reconnect
