import Reconnect.Client.SessionKeeper
import Reconnect.Proofs.Flow

/-!
# Application traffic is conserved

Application packets, pings and requests, go through three places: the queue, the outbound buffer
and the stream.  A lost connection sends what is not written back to the queue, in front of newer
packets, and what the gates hold back is overtaken by packets of other kinds.  None of this loses an
application packet, sends one twice, or changes their order.

## Results

* `Flow.Step.traffic`: one move takes an application packet off at one end, appends one at the
  other, or leaves them all as they are.
* `Link.finished_append_waiting_eq_submitted`: **in every run, the application packets that were
  written, those that are framed and those that are queued are together the ones that were
  submitted, each once and in the order of their submission**.
-/

namespace Reconnect

namespace Move

/-- The packet whose frame is written in full. -/
def finished? : Move → Option Packet
  | finished p => some p
  | _ => none

end Move

/-- The packets of a list that serve the application. -/
def applications (ps : List Packet) : List Packet := ps.filter fun p => p.kind.servesApplication

@[simp] theorem applications_append (ps qs : List Packet) :
    applications (ps ++ qs) = applications ps ++ applications qs := List.filter_append ..

@[simp] theorem applications_nil : applications [] = [] := rfl

theorem applications_cons (p : Packet) (ps : List Packet) :
    applications (p :: ps) = applications [p] ++ applications ps := applications_append [p] ps

theorem applications_eq_nil {ps : List Packet}
    (h : ∀ p ∈ ps, p.kind.servesApplication = false) : applications ps = [] := by
  rw [applications, List.filter_eq_nil_iff]
  intro p hp
  rw [h p hp]
  decide

theorem applications_without_handshake (q : Queue) :
    applications (Queue.without .handshake q) = applications q := by
  rw [applications, applications, Queue.without, List.filter_filter]
  refine List.filter_congr fun p _ => ?_
  cases hk : p.kind <;> simp [Kind.servesApplication]

/-- The first packet that may leave leaves no application packet behind that came before it, if it
is one itself. -/
theorem applications_of_pop {answered authPending : Bool} {q rest : Queue} {p : Packet}
    (h : Queue.pop (Kind.passes answered authPending) q = some (p, rest)) :
    applications q = applications [p] ++ applications rest := by
  obtain ⟨hp, front, back, rfl, rfl, hfront⟩ := Queue.pop_eq_some_iff.mp h
  rw [List.append_cons, applications_append, applications_append, applications_append]
  cases ha : p.kind.servesApplication with
  | false =>
    have hnone : applications [p] = [] := applications_eq_nil (by simpa using ha)
    rw [hnone, List.append_nil, List.nil_append]
  | true =>
    have hnone : applications front = [] := by
      refine applications_eq_nil fun r hr => ?_
      cases hra : r.kind.servesApplication with
      | false => rfl
      | true =>
        have hpass := hfront r hr
        rw [Kind.passes_of_servesApplication _ _ hra,
          ← Kind.passes_of_servesApplication _ _ ha, hp] at hpass
        cases hpass
    rw [hnone, List.nil_append, List.nil_append]

namespace Control

theorem applications_act (c : Control) (a : Action)
    (h : ∀ p ∈ a.jumped?, p.kind.servesApplication = false) :
    applications (c.act a).queue = applications c.queue ++ applications a.appended?.toList := by
  cases a with
  | pushFront p =>
    have hp : applications [p] = [] := applications_eq_nil (by simpa [Action.jumped?] using h)
    simp [act, Action.appended?, applications_cons p c.queue, hp]
  | pushBack p | submit p => simp [act, Action.appended?]
  | wake | close | beginAuth | endAuth | prime => simp [act, Action.appended?]

theorem applications_runActions (c : Control) (actions : List Action)
    (h : ∀ p ∈ actions.filterMap Action.jumped?, p.kind.servesApplication = false) :
    applications (c.runActions actions).queue =
      applications c.queue ++ applications (actions.filterMap Action.appended?) := by
  induction actions generalizing c with
  | nil => simp
  | cons a actions ih =>
    have hhead : ∀ p ∈ a.jumped?, p.kind.servesApplication = false := fun p hp =>
      h p (List.mem_filterMap.mpr ⟨a, List.mem_cons_self, hp⟩)
    have htail : ∀ p ∈ actions.filterMap Action.jumped?, p.kind.servesApplication = false := by
      intro p hp
      obtain ⟨b, hb, hbp⟩ := List.mem_filterMap.mp hp
      exact h p (List.mem_filterMap.mpr ⟨b, List.mem_cons_of_mem _ hb, hbp⟩)
    have hsplit : (a :: actions).filterMap Action.appended? =
        a.appended?.toList ++ actions.filterMap Action.appended? := by
      cases ha : a.appended? <;> simp [ha]
    rw [runActions_cons, ih _ htail, c.applications_act a hhead, hsplit, applications_append,
      List.append_assoc]

end Control

namespace Flow

/-- The application packets that are not written in full. -/
def traffic (f : Flow) : List Packet := applications f.outbound ++ applications f.control.queue

theorem traffic_runActions (f : Flow) (stage : Stage) (actions : List Control.Action)
    (h : ∀ p ∈ actions.filterMap Control.Action.jumped?, p.kind.servesApplication = false) :
    traffic { f with stage, control := f.control.runActions actions } =
      f.traffic ++ applications (actions.filterMap Control.Action.appended?) := by
  simp only [traffic, f.control.applications_runActions actions h, List.append_assoc]

/-- **A move finishes the first application packet, appends the last, or keeps them all.** -/
theorem Step.traffic {f g : Flow} {m : Move} (s : Step f m g)
    (h : ∀ p ∈ m.jumped, p.kind.servesApplication = false) :
    applications m.finished?.toList ++ g.traffic = f.traffic ++ applications m.submitted := by
  cases s with
  | opened actions | answered response actions | received pending frame actions
  | steered actions => exact f.traffic_runActions _ actions h
  | framed hpop =>
    simp only [Flow.traffic, applications_of_pop hpop, Move.submitted, Move.finished?,
      Move.actions, applications_append, List.append_assoc, List.filterMap_nil,
      applications_nil, List.append_nil, Option.toList_none, List.nil_append]
  | pushed p =>
    have hp : applications [p] = [] := applications_eq_nil h
    simp [Flow.traffic, hp, Move.submitted, Move.finished?, Move.actions]
  | @finished p rest ho =>
    simp [Flow.traffic, ho, applications_cons p rest, Move.submitted, Move.finished?,
      Move.actions]
  | reset =>
    simp [Flow.traffic, applications_without_handshake, Move.submitted, Move.finished?,
      Move.actions]
  | began b | calmed | handed hw | closed =>
    simp [Flow.traffic, Move.submitted, Move.finished?, Move.actions, Control.restart]

/-- Along a path, application packets leave at one end in the order in which they came in at the
other. -/
theorem Path.traffic {f g : Flow} {h : List Move} (path : Path f h g)
    (hj : ∀ m ∈ h, ∀ p ∈ m.jumped, p.kind.servesApplication = false) :
    applications (h.filterMap Move.finished?) ++ g.traffic =
      f.traffic ++ applications (h.flatMap Move.submitted) := by
  refine path.invariant (I := fun h g => applications (h.filterMap Move.finished?) ++ g.traffic =
    f.traffic ++ applications (h.flatMap Move.submitted)) hj (by simp)
    fun {h g m k} before hm s => ?_
  have last := s.traffic hm
  have hone : [m].filterMap Move.finished? = m.finished?.toList := by
    cases hf : m.finished? <;> simp [hf]
  calc applications ((h ++ [m]).filterMap Move.finished?) ++ k.traffic
      = applications (h.filterMap Move.finished?) ++
          (applications m.finished?.toList ++ k.traffic) := by
        rw [List.filterMap_append, hone, applications_append, List.append_assoc]
    _ = (applications (h.filterMap Move.finished?) ++ g.traffic) ++
          applications m.submitted := by
        rw [last, List.append_assoc]
    _ = f.traffic ++ applications ((h ++ [m]).flatMap Move.submitted) := by
        rw [before, List.flatMap_append, applications_append, List.append_assoc]
        simp

end Flow

namespace Link

variable {σ : Type}

/-- **Conservation of application traffic.**
    As long as application packets come in at the back of the queue only, whatever else happens and
    however often the connection is lost: those that were written in full, in the order in which
    they were, then those that are framed, then those that are queued are the ones that were
    submitted, in the order of their submission. -/
theorem finished_append_waiting_eq_submitted [Client σ] (settings : Settings) (client : σ)
    (ops : List Op)
    (h : ∀ m ∈ (new settings client).course ops, ∀ p ∈ m.jumped,
      p.kind.servesApplication = false) :
    applications (((new settings client).course ops).filterMap Move.finished?) ++
        applications ((new settings client).run ops).outbound.packets ++
        applications ((new settings client).run ops).control.queue =
      applications (((new settings client).course ops).flatMap Move.submitted) := by
  have path := (new settings client).path_run ops
  rw [List.append_assoc]
  exact path.traffic h

end Link

namespace SessionKeeper

/-- A client that has no session yet. -/
def anew : SessionKeeper := { timeout := 0, readOnly := false }

/-- An answer that grants a session. -/
def granted : Session.Response := { timeoutMs := 1, sessionId := 7, secret := [] }

/-- Such an answer on the wire. -/
def greeting : Bytes := Frame.encode granted.encode

end SessionKeeper

namespace Link

/-- A request and a ping are framed, the request is written and half of the ping is, and then the
    connection is lost and begun again. -/
def interrupted : List Op :=
  [.steer [.submit { kind := .request, xid := 1, body := [1] }, .submit SessionKeeper.pingPacket],
    .connect ⟨.v4 0, 0⟩, .established none 0, .fill, .wrote 49,
    .heard SessionKeeper.greeting, .process, .fill, .wrote 11, .connect ⟨.v4 0, 0⟩]

theorem traffic_interrupted :
    (∀ m ∈ (new {} SessionKeeper.anew).course interrupted, ∀ p ∈ m.jumped,
      p.kind.servesApplication = false) ∧
    applications (((new {} SessionKeeper.anew).course interrupted).filterMap Move.finished?) =
      [{ kind := .request, xid := 1, body := [1] }] ∧
    applications (((new {} SessionKeeper.anew).course interrupted).filterMap Move.finished?) ++
      applications ((new {} SessionKeeper.anew).run interrupted).outbound.packets ++
      applications ((new {} SessionKeeper.anew).run interrupted).control.queue =
        [{ kind := .request, xid := 1, body := [1] }, SessionKeeper.pingPacket] := by
  have quiet : ∀ m ∈ (new {} SessionKeeper.anew).course interrupted, ∀ p ∈ m.jumped,
      p.kind.servesApplication = false := by decide +kernel
  refine ⟨quiet, by decide +kernel, ?_⟩
  rw [finished_append_waiting_eq_submitted {} SessionKeeper.anew interrupted quiet]
  decide +kernel

end Link

end Reconnect
