import Reconnect.Transport

/-!
# What a transport waits for, one wait after the other

The loops of a transport are the same for all that is to be said about them: a cycle goes round
until a wait ends it, and sending ahead writes until nothing is left.  Here they are taken apart
once, into lists of the waits that were over, with a recursor for each.

## Protocol

* A round of a cycle finds that the transport was asked to stop, that there is nothing to wait for,
  or waits; it is told by the transport that is ready for the wait, and what the wait came to.
* A portion is one wait of sending ahead, told by the transport before it.

## Results

* `Transport.rounds_rec`, `Transport.drain_rec`: what is to be shown of a loop is shown of each way
  in which one turn of it can end.
-/

namespace Reconnect

/-- One time round the loop of a cycle. -/
inductive Round (σ α : Type) where
  /-- The transport was asked to stop. -/
  | stopped (t : Transport σ)
  /-- There was nothing to wait for. -/
  | stranded (t : Transport σ)
  /-- The transport was ready for a wait, and the wait came to something. -/
  | waited (t : Transport σ) (m : Moment (Signal α))

/-- One wait of a transport that sends ahead. -/
structure Portion (σ : Type) where
  transport : Transport σ
  moment : Moment Transport.Sent

namespace Transport

variable {σ α ω : Type}

/-! ## Cycles -/

/-- The rounds of a cycle, as far as its waits were over. -/
def roundsWaits [Client σ] [Backend α] (await : ω → Wait → Bool → Option (Moment (Signal α) × ω)) :
    (fuel : Nat) → Transport σ → ω → List (Round σ α)
  | 0, _, _ => []
  | fuel + 1, t, around =>
    if t.link.control.closing then [.stopped t]
    else
      match t.arm with
      | (t, none) => [.stranded t]
      | (t, some wait) =>
        match await around wait t.link.control.woken with
        | none => []
        | some (m, around) =>
          .waited t m ::
          match t.take m with
          | (t, .again) => roundsWaits await fuel t around
          | (_, .finish) | (_, .fail _) => []

/-- What is to be shown of the rounds of a cycle, of where they lead and of how they end, is shown
of each way in which one round can end. -/
theorem rounds_rec [Client σ] [Backend α]
    {P : Transport σ → List (Round σ α) → Transport σ → Verdict → Prop}
    {await : ω → Wait → Bool → Option (Moment (Signal α) × ω)}
    (paused : ∀ t, P t [] t .waiting)
    (stopped : ∀ t, t.link.control.closing = true → P t [.stopped t] t.close .finished)
    (stranded : ∀ t u, t.arm = (u, none) → P t [.stranded u] u (.failed .notConnected))
    (armed : ∀ t u wait, t.arm = (u, some wait) → P t [] u .waiting)
    (again : ∀ t u wait m v h w verdict, t.arm = (u, some wait) → u.take m = (v, .again) →
      P v h w verdict → P t (.waited u m :: h) w verdict)
    (finished : ∀ t u wait m v, t.arm = (u, some wait) → u.take m = (v, .finish) →
      P t [.waited u m] { v with link := v.link.handOver } .finished)
    (failed : ∀ t u wait m v fault, t.arm = (u, some wait) → u.take m = (v, .fail fault) →
      P t [.waited u m] v (.failed fault))
    (fuel : Nat) (t : Transport σ) (around : ω) :
    P t (roundsWaits await fuel t around) (rounds await fuel t around).1
      (rounds await fuel t around).2.2 := by
  induction fuel generalizing t around with
  | zero => exact paused t
  | succ fuel ih =>
    rw [rounds, roundsWaits]
    by_cases hclosing : t.link.control.closing = true
    · rw [if_pos hclosing, if_pos hclosing]
      exact stopped t hclosing
    · rw [if_neg hclosing, if_neg hclosing]
      cases harm : t.arm with
      | mk u offer =>
        cases offer with
        | none => exact stranded t u harm
        | some wait =>
          simp only
          cases await around wait u.link.control.woken with
          | none => exact armed t u wait harm
          | some found =>
            obtain ⟨m, around⟩ := found
            simp only
            cases htake : u.take m with
            | mk v next =>
              cases next with
              | again => exact again t u wait m v _ _ _ harm htake (ih v around)
              | finish => exact finished t u wait m v harm htake
              | fail fault => exact failed t u wait m v fault harm htake

/-! ## Sending ahead -/

/-- What there is to do before the sending is over: bytes to write, or else a flush. -/
def owed (t : Transport σ) : Send :=
  if t.link.hasUnsent then .bytes t.link.outbound.bytes else .flush

/-- The waits of a transport that sends ahead, as far as they were over. -/
def drainWaits (flushes : Bool) (await : ω → Send → Option (Moment Sent × ω)) :
    (fuel : Nat) → Transport σ → ω → List (Portion σ)
  | 0, _, _ => []
  | fuel + 1, t, around =>
    if !t.link.hasUnsent && !flushes then []
    else
      match await around t.owed with
      | none => []
      | some (m, around) =>
        ⟨t, m⟩ ::
        match takeSent { t with link := t.link.steer m.actions } t.owed m.signal with
        | (t, .again) => drainWaits flushes await fuel t around
        | (_, .finish) | (_, .fail _) => []

/-- What is to be shown of the waits of a transport that sends ahead, of where they lead and of how
they end, is shown of each way in which one wait can end. -/
theorem drain_rec {P : Transport σ → List (Portion σ) → Transport σ → Verdict → Prop}
    {flushes : Bool} {await : ω → Send → Option (Moment Sent × ω)}
    (paused : ∀ t, P t [] t .waiting)
    (done : ∀ t, t.link.hasUnsent = false → flushes = false → P t [] t .finished)
    (again : ∀ t m u h v verdict,
      takeSent { t with link := t.link.steer m.actions } t.owed m.signal = (u, .again) →
      P u h v verdict → P t (⟨t, m⟩ :: h) v verdict)
    (finished : ∀ t m u,
      takeSent { t with link := t.link.steer m.actions } t.owed m.signal = (u, .finish) →
      P t [⟨t, m⟩] u .finished)
    (failed : ∀ t m u fault,
      takeSent { t with link := t.link.steer m.actions } t.owed m.signal = (u, .fail fault) →
      P t [⟨t, m⟩] u (.failed fault))
    (fuel : Nat) (t : Transport σ) (around : ω) :
    P t (drainWaits flushes await fuel t around) (drain flushes await fuel t around).1
      (drain flushes await fuel t around).2.2 := by
  induction fuel generalizing t around with
  | zero => exact paused t
  | succ fuel ih =>
    rw [drain, drainWaits]
    by_cases hdone : (!t.link.hasUnsent && !flushes) = true
    · rw [if_pos hdone, if_pos hdone]
      rw [Bool.and_eq_true, Bool.not_eq_true', Bool.not_eq_true'] at hdone
      exact done t hdone.1 hdone.2
    · rw [if_neg hdone, if_neg hdone]
      have howed : (if t.link.hasUnsent then Send.bytes t.link.outbound.bytes else .flush) = t.owed :=
        rfl
      rw [howed]
      cases await around t.owed with
      | none => exact paused t
      | some found =>
        obtain ⟨m, around⟩ := found
        simp only
        cases htaken : takeSent { t with link := t.link.steer m.actions } t.owed m.signal with
        | mk u next =>
          cases next with
          | again => exact again t m u _ _ _ htaken (ih u around)
          | finish => exact finished t m u htaken
          | fail fault => exact failed t m u fault htaken

end Transport

end Reconnect
