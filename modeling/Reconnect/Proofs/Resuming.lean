import Mathlib.Data.List.Induction
import Reconnect.Proofs.Conservation

/-!
# Taking up a session

A session keeper outlives its connections.  What it asks for on the next one depends on all that it
was told on those before: the answers to its connect requests grant a session or end it, and the
replies tell it how far it has followed the changes on the server.

## Protocol

* `Use` is everything that is done with a session keeper, in any order.
* The session that is held is the one that the last answer grants, and none if that answer leaves no
  time or there was none.
* The last change is the one of the last reply that told of any; a change has a positive number.

## Results

* `SessionKeeper.request_react`: every use brings a keeper from what it had to ask for to what it
  has to ask for now.
* `SessionKeeper.prime_resumes`: **on every connection the first packet in the queue asks for the
  session that is held**, and nothing but an answer to such a packet changes that session.
* `SessionKeeper.prime_opens`: **without a session the packet asks for a new one, but it tells of
  the last change all the same**, and so it is the request for a new session only if no reply has
  told of a change.
* `SessionKeeper.change_outlives_session`: such a request, after a session has expired.
-/

namespace Reconnect

namespace Session

/-- A longer time than fits into a signed word is cut. -/
theorem toInt_timeoutMs (timeout : Nanos) :
    (timeoutMs timeout).toInt = min timeout.millis 2147483647 := by
  have hmax : maxTimeoutMs = 2147483647 := rfl
  have hlt : min timeout.millis 2147483647 < 2147483648 := by omega
  rw [timeoutMs, hmax, Int32.toInt_ofNat_of_lt hlt]

/-- The session that an answer grants, by its number and its secret, if the answer leaves time. -/
def Response.grant? (r : Response) : Option (Int64 × Secret) :=
  if r.timeoutMs ≤ 0 then none else some (r.sessionId, r.secret)

namespace Request

/-- The request of a client that has seen a change, if it has. -/
def noting (r : Request) (change : Option Int64) : Request :=
  { r with lastZxid := change.getD r.lastZxid }

/-- The request for a session to be taken up again, or for a new one. -/
def resuming (r : Request) (session : Option (Int64 × Secret)) : Request :=
  { r with
    sessionId := (session.getD (0, noSecret)).1
    secret := (session.getD (0, noSecret)).2 }

/-- Of two changes the later one counts. -/
theorem noting_noting (r : Request) (change later : Option Int64) :
    (r.noting change).noting later = r.noting (later.or change) := by
  cases later <;> rfl

theorem resuming_resuming (r : Request) (session later : Option (Int64 × Secret)) :
    (r.resuming session).resuming later = r.resuming later := rfl

theorem noting_resuming (r : Request) (session : Option (Int64 × Secret)) (change : Option Int64) :
    (r.resuming session).noting change = (r.noting change).resuming session := rfl

end Request

end Session

/-- The change that a reply tells of. -/
def ReplyHeader.change? (header : ReplyHeader) : Option Int64 :=
  if 0 < header.zxid then some header.zxid else none

theorem ReplyHeader.change?_pos {header : ReplyHeader} {zxid : Int64}
    (h : header.change? = some zxid) : 0 < zxid := by
  unfold change? at h
  split at h
  · rename_i hpos
    obtain rfl := Option.some.inj h
    exact hpos
  · cases h

namespace SessionKeeper

/-- What is done with a session keeper. -/
inductive Use where
  | prime
  | accept (response : Session.Response)
  | receive (pending : List Packet) (frame : Bytes)
  | disconnect
  | ping
deriving DecidableEq, Repr

namespace Use

/-- The answer to a connect request that a use brings. -/
def answer? : Use → Option Session.Response
  | accept response => some response
  | _ => none

/-- The change that a use tells of. -/
def change? : Use → Option Int64
  | receive _ frame => (ReplyHeader.ofFrame? frame).bind ReplyHeader.change?
  | _ => none

theorem change?_pos {use : Use} {zxid : Int64} (h : use.change? = some zxid) : 0 < zxid := by
  cases use with
  | receive pending frame =>
    obtain ⟨header, -, hchange⟩ := Option.bind_eq_some_iff.mp h
    exact ReplyHeader.change?_pos hchange
  | prime | accept response | disconnect | ping => cases h

end Use

/-- How a keeper answers a use. -/
def react (k : SessionKeeper) : Use → Reaction SessionKeeper
  | .prime => k.prime
  | .accept response => k.accept response
  | .receive pending frame => (k.receive pending frame).1
  | .disconnect => { client := k.disconnected }
  | .ping => { client := k, actions := [.submit pingPacket] }

def run (k : SessionKeeper) (uses : List Use) : SessionKeeper :=
  uses.foldl (fun k use => (k.react use).client) k

/-- A keeper made with `timeout` and `readOnly`, after `uses`. -/
def after (timeout : Nanos) (readOnly : Bool) (uses : List Use) : SessionKeeper :=
  run { timeout, readOnly } uses

/-- The answer that came last. -/
def lastAnswer (uses : List Use) : Option Session.Response :=
  (uses.filterMap Use.answer?).getLast?

/-- The session that is held. -/
def held (uses : List Use) : Option (Int64 × Session.Secret) :=
  (lastAnswer uses).bind Session.Response.grant?

/-- The change that was told of last. -/
def lastChange (uses : List Use) : Option Int64 := (uses.filterMap Use.change?).getLast?

/-! ## Histories -/

theorem run_concat (k : SessionKeeper) (uses : List Use) (use : Use) :
    k.run (uses ++ [use]) = ((k.run uses).react use).client := by
  rw [run, List.foldl_append]
  rfl

theorem getLast?_filterMap_concat {α β : Type} (f : α → Option β) (l : List α) (a : α) :
    ((l ++ [a]).filterMap f).getLast? = (f a).or (l.filterMap f).getLast? := by
  rw [List.filterMap_append, List.getLast?_append]
  cases hf : f a <;> simp [hf]

theorem held_concat (uses : List Use) (use : Use) :
    held (uses ++ [use]) = (use.answer?.or (lastAnswer uses)).bind Session.Response.grant? := by
  rw [held, lastAnswer, getLast?_filterMap_concat]
  rfl

theorem lastChange_concat (uses : List Use) (use : Use) :
    lastChange (uses ++ [use]) = use.change?.or (lastChange uses) :=
  getLast?_filterMap_concat ..

theorem lastChange_eq_none_iff {uses : List Use} :
    lastChange uses = none ↔ ∀ use ∈ uses, use.change? = none := by
  rw [lastChange, List.getLast?_eq_none_iff, List.filterMap_eq_nil_iff]

theorem lastChange_pos {uses : List Use} {zxid : Int64} (h : lastChange uses = some zxid) :
    0 < zxid := by
  obtain ⟨use, -, hchange⟩ := List.mem_filterMap.mp (List.mem_of_getLast? h)
  exact Use.change?_pos hchange

/-! ## What a keeper asks for -/

/-- What a keeper made with `timeout` and `readOnly` has to ask for after `uses`. -/
def due (timeout : Nanos) (readOnly : Bool) (uses : List Use) : Session.Request :=
  ((Session.Request.opening timeout readOnly).noting (lastChange uses)).resuming (held uses)

theorem request_answer (k : SessionKeeper) (xid : Int32) (frame : Bytes) (pending : List Packet) :
    (k.answer xid frame pending).1.client.request = k.request := by
  unfold answer
  split
  · rfl
  · split <;> rfl

/-- A frame tells of a change or of none, whatever else it is for. -/
theorem request_receive (k : SessionKeeper) (pending : List Packet) (frame : Bytes) :
    (k.receive pending frame).1.client.request =
      k.request.noting (Use.change? (.receive pending frame)) := by
  unfold receive
  cases hheader : ReplyHeader.ofFrame? frame with
  | none =>
    have hnone : Use.change? (.receive pending frame) = none := by
      rw [Use.change?, hheader, Option.bind_none]
    rw [hnone]
    rfl
  | some header =>
    have hsome : Use.change? (.receive pending frame) = header.change? := by
      rw [Use.change?, hheader, Option.bind_some]
    have hnoted : (if 0 < header.zxid then { k with lastZxid := header.zxid } else k).request =
        k.request.noting header.change? := by
      unfold ReplyHeader.change?
      split <;> rfl
    rw [hsome, ← hnoted]
    dsimp only
    split
    · rfl
    · rfl
    · rfl
    · exact request_answer _ _ _ _

/-- The answer that comes last decides on the session. -/
theorem request_accept (k : SessionKeeper) (response : Session.Response) :
    (k.accept response).client.request = k.request.resuming response.grant? := by
  unfold accept Session.Response.grant?
  split <;> rfl

/-- A use brings the request from what was due before it to what is due after it. -/
theorem request_react {timeout : Nanos} {readOnly : Bool} {uses : List Use} {k : SessionKeeper}
    (h : k.request = due timeout readOnly uses) (use : Use) :
    (k.react use).client.request = due timeout readOnly (uses ++ [use]) := by
  have hheld := held_concat uses use
  have hchange := lastChange_concat uses use
  rw [due, hheld, hchange]
  cases use with
  | prime | disconnect | ping => exact h
  | accept response =>
    rw [react, request_accept, h, due, Session.Request.resuming_resuming]
    rfl
  | receive pending frame =>
    rw [react, request_receive, h, due, Session.Request.noting_resuming,
      Session.Request.noting_noting]
    rfl

theorem request_after (timeout : Nanos) (readOnly : Bool) (uses : List Use) :
    (after timeout readOnly uses).request = due timeout readOnly uses := by
  induction uses using List.reverseRecOn with
  | nil => rfl
  | append_singleton uses use ih =>
    rw [after, run_concat]
    exact request_react ih use

/-- Nothing but an answer to a connect request changes the session. -/
theorem session_react (k : SessionKeeper) {use : Use} (h : use.answer? = none) :
    (k.react use).client.sessionId = k.sessionId ∧ (k.react use).client.secret = k.secret := by
  cases use with
  | prime | disconnect | ping => exact ⟨rfl, rfl⟩
  | accept response => cases h
  | receive pending frame =>
    have hrequest := k.request_receive pending frame
    exact ⟨congrArg Session.Request.sessionId hrequest, congrArg Session.Request.secret hrequest⟩

/-! ## The first packet on a connection -/

/-- **A connection starts with the session that is held.**
    After any uses, and whatever the queue holds by then, priming puts one packet in front of the
    queue and does nothing else.  The packet carries a request with the time and the flag that the
    keeper was made with, and with the session of the last answer if that has left time; if it has
    not, or if there was none, the request is for no session.  Nothing but an answer to a connect
    request changes the session. -/
theorem prime_resumes (timeout : Nanos) (readOnly : Bool) (uses : List Use) (control : Control) :
    (∃ request : Session.Request,
      (after timeout readOnly uses).prime.client = after timeout readOnly uses ∧
      (after timeout readOnly uses).prime.fault = none ∧
      control.runActions (after timeout readOnly uses).prime.actions =
        { control with
          queue := { kind := .handshake, xid := 0, body := request.encode } :: control.queue } ∧
      request.timeoutMs.toInt = min timeout.millis 2147483647 ∧
      request.readOnly = readOnly ∧
      (∀ response, lastAnswer uses = some response → 0 < response.timeoutMs →
        request.sessionId = response.sessionId ∧ request.secret = response.secret) ∧
      ((∀ response, lastAnswer uses = some response → response.timeoutMs ≤ 0) →
        request.sessionId = 0 ∧ request.secret = List.replicate 16 0)) ∧
    ∀ use, use.answer? = none →
      ((after timeout readOnly uses).react use).client.sessionId =
        (after timeout readOnly uses).sessionId ∧
      ((after timeout readOnly uses).react use).client.secret =
        (after timeout readOnly uses).secret := by
  have hrequest := request_after timeout readOnly uses
  refine ⟨⟨due timeout readOnly uses, rfl, rfl, ?_, Session.toInt_timeoutMs timeout, rfl, ?_, ?_⟩,
    fun use => session_react _⟩
  · rw [← hrequest]
    rfl
  · intro response hlast htime
    have hgrant : response.grant? = some (response.sessionId, response.secret) :=
      if_neg (Int32.not_le.mpr htime)
    have hheld : held uses = some (response.sessionId, response.secret) := by
      rw [held, hlast, Option.bind_some, hgrant]
    rw [due, hheld]
    exact ⟨rfl, rfl⟩
  · intro hgone
    have hheld : held uses = none := by
      apply Option.bind_eq_none_iff.mpr
      intro response hlast
      exact if_pos (hgone response hlast)
    rw [due, hheld]
    exact ⟨rfl, rfl⟩

/-- A session is granted, its connection is used for a reply and then lost. -/
def interruption : List Use :=
  [.prime, .accept granted,
    .receive [] (Bytes.ofInt32 (-1) ++ Bytes.ofInt64 42 ++ Bytes.ofInt32 0), .ping, .disconnect]

theorem prime_resumes_interruption :
    lastAnswer interruption = some granted ∧ 0 < granted.timeoutMs ∧
    ∃ request : Session.Request,
      (Control.runActions {} (after 0 false interruption).prime.actions).queue =
        [{ kind := .handshake, xid := 0, body := request.encode }] ∧
      request.sessionId = 7 ∧ request.secret = [] := by
  have hlast : lastAnswer interruption = some granted := rfl
  have htime : 0 < granted.timeoutMs := by decide
  obtain ⟨⟨request, -, -, hqueue, -, -, hheld, -⟩, -⟩ := prime_resumes 0 false interruption {}
  obtain ⟨hsession, hsecret⟩ := hheld granted hlast htime
  exact ⟨hlast, htime, request, by rw [hqueue], hsession, hsecret⟩

/-- **Without a session a connection starts with the request for a new one, but for the last
change.**
    The request tells of the change that was told of last, also if that was in a session that is
    gone, or before there was any session.  So it is the request for a new session exactly if no
    reply has told of a change. -/
theorem prime_opens (timeout : Nanos) (readOnly : Bool) {uses : List Use}
    (h : held uses = none) :
    ∃ request : Session.Request,
      (after timeout readOnly uses).prime.actions = [.pushFront (.ofRequest request)] ∧
      request = { Session.Request.opening timeout readOnly with
        lastZxid := (lastChange uses).getD 0 } ∧
      (request = Session.Request.opening timeout readOnly ↔
        ∀ use ∈ uses, use.change? = none) := by
  have hdue : due timeout readOnly uses =
      { Session.Request.opening timeout readOnly with lastZxid := (lastChange uses).getD 0 } := by
    rw [due, h]
    rfl
  refine ⟨due timeout readOnly uses, ?_, hdue, ?_⟩
  · rw [← request_after]
    rfl
  · rw [← lastChange_eq_none_iff, hdue]
    constructor
    · intro hopening
      have hzero : (lastChange uses).getD 0 = 0 := congrArg Session.Request.lastZxid hopening
      cases hlast : lastChange uses with
      | none => rfl
      | some zxid =>
        have hpos := lastChange_pos hlast
        rw [hlast, Option.getD_some] at hzero
        subst hzero
        exact absurd hpos (by decide)
    · intro hnone
      rw [hnone]
      rfl

/-- The session is lost with its connection: the next answer leaves no time. -/
def expiry : List Use := interruption ++ [.prime, .accept { granted with timeoutMs := 0 }]

theorem prime_opens_expiry :
    held expiry = none ∧
    ∃ request : Session.Request,
      (after 0 false expiry).prime.actions = [.pushFront (.ofRequest request)] ∧
      request = { Session.Request.opening 0 false with lastZxid := 42 } := by
  have hgone : held expiry = none := by decide
  obtain ⟨request, hactions, hrequest, -⟩ := prime_opens 0 false hgone
  have hchange : lastChange expiry = some 42 := by decide
  rw [hchange] at hrequest
  exact ⟨hgone, request, hactions, hrequest⟩

/-- A change that was seen in a session outlives it. -/
theorem change_outlives_session :
    held expiry = none ∧
    (after 0 false expiry).prime.actions ≠
      [.pushFront (.ofRequest (Session.Request.opening 0 false))] := by
  decide

end SessionKeeper

end Reconnect
