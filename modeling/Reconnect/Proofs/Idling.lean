import Mathlib.Data.List.DropRight
import Reconnect.Liveness

/-!
# How long nothing was heard and nothing was sent

Whether to ping and when to give up is decided by two durations.  Both are differences of times that
a clock has shown, and the clock is read between events in any order and may be set back.  Here they
are told from the history of the clock alone.

## Protocol

* A history is a list of operations on the clock and the counters, after a start.
* Hearing is stamped by what is heard and by a new connection, sending by what is sent and by a new
  connection.  `upToLast` is the history up to the last operation that stamps, and nothing of it if
  there is none, so that the clock then shows the start.
* `advances` leaves out the readings of the clock that are not above a time, such as the start, and
  all readings before them.

## Results

* `Liveness.Stamps.stamp_run`: a stamp is what the clock has shown at the last operation that
  stamps.
* `Liveness.run_advances`: a reading that is not above all earlier ones has no effect.
* `Liveness.idle_throughout`: **the clock shows its latest reading, and the idle durations are
  exact, whatever the history.**
-/

namespace Reconnect.Liveness

/-! ## Histories -/

/-- What an operation reads off the clock. -/
def Op.reading? : Op → Option Nanos
  | tick t => some t
  | heard | spoke | fresh | countSent | countReceived => none

/-- All readings of the clock, in order. -/
def readings (ops : List Op) : List Nanos := ops.filterMap Op.reading?

/-- The operation makes a note of when something was heard. -/
def Op.hears : Op → Bool
  | heard | fresh => true
  | tick _ | spoke | countSent | countReceived => false

/-- The operation makes a note of when something was sent. -/
def Op.speaks : Op → Bool
  | spoke | fresh => true
  | tick _ | heard | countSent | countReceived => false

/-- The history up to the last operation of a kind, itself included. -/
def upToLast (marks : Op → Bool) (ops : List Op) : List Op := ops.rdropWhile fun op => !marks op

/-- The history without the readings that are not above `latest` and all readings before them. -/
def advances (latest : Nanos) : List Op → List Op
  | [] => []
  | .tick t :: ops => if latest < t then .tick t :: advances t ops else advances latest ops
  | op :: ops => op :: advances latest ops

theorem run_append (l : Liveness) (ops more : List Op) :
    l.run (ops ++ more) = (l.run ops).run more := List.foldl_append

theorem run_concat (l : Liveness) (ops : List Op) (op : Op) :
    l.run (ops ++ [op]) = (l.run ops).step op := l.run_append ops [op]

theorem upToLast_concat (marks : Op → Bool) (ops : List Op) (op : Op) :
    upToLast marks (ops ++ [op]) = if marks op then ops ++ [op] else upToLast marks ops := by
  unfold upToLast
  rw [List.rdropWhile_concat]
  cases marks op <;> rfl

/-! ## The clock -/

theorem now_run (l : Liveness) (ops : List Op) :
    (l.run ops).now = (readings ops).foldl max l.now := by
  induction ops generalizing l with
  | nil => rfl
  | cons op ops ih =>
    rw [run_cons, ih]
    cases op <;> rfl

theorem now_le_step (l : Liveness) (op : Op) : l.now ≤ (l.step op).now := by
  cases op with
  | tick t => exact Nat.le_max_left l.now t
  | heard | spoke | fresh | countSent | countReceived => exact Nat.le_refl _

theorem now_le_run (l : Liveness) (ops : List Op) : l.now ≤ (l.run ops).now := by
  induction ops generalizing l with
  | nil => exact Nat.le_refl _
  | cons op ops ih => exact Nat.le_trans (l.now_le_step op) (ih (l.step op))

/-- A reading that is not above what the clock shows has no effect. -/
theorem tick_of_le {l : Liveness} {t : Nanos} (h : t ≤ l.now) : l.tick t = l := by
  unfold tick
  rw [Nat.max_eq_left h]

theorem run_advances {l : Liveness} {latest : Nanos} (h : latest ≤ l.now) (ops : List Op) :
    l.run (advances latest ops) = l.run ops := by
  induction ops generalizing l latest with
  | nil => rfl
  | cons op ops ih =>
    cases op with
    | tick t =>
      unfold advances
      split
      · -- the clock shows the reading from here on, or something later
        exact ih (Nat.le_max_right l.now t)
      · rename_i hearly
        have hle : t ≤ l.now := Nat.le_trans (Nat.le_of_not_lt hearly) h
        show l.run (advances latest ops) = (l.tick t).run ops
        rw [tick_of_le hle]
        exact ih h
    | heard | spoke | fresh | countSent | countReceived => exact ih h

/-! ## Stamps -/

/-- A time that operations of a kind, and no others, set to what the clock shows. -/
structure Stamps (marks : Op → Bool) (stamp : Liveness → Nanos) : Prop where
  start : ∀ t, stamp (starting t) = t
  step : ∀ l op, stamp (l.step op) = if marks op then (l.step op).now else stamp l

theorem stamps_lastHeard : Stamps Op.hears lastHeard where
  start _ := rfl
  step l op := by cases op <;> rfl

theorem stamps_lastSent : Stamps Op.speaks lastSent where
  start _ := rfl
  step l op := by cases op <;> rfl

namespace Stamps

variable {marks : Op → Bool} {stamp : Liveness → Nanos}

/-- A stamp is what the clock has shown at the last operation that stamps, or else at the start. -/
theorem stamp_run (s : Stamps marks stamp) (t : Nanos) (ops : List Op) :
    stamp ((starting t).run ops) = ((starting t).run (upToLast marks ops)).now := by
  induction ops using List.reverseRecOn with
  | nil => exact s.start t
  | append_singleton ops op ih =>
    rw [run_concat, s.step, upToLast_concat]
    split
    · rw [run_concat]
    · exact ih

theorem stamp_le_now (s : Stamps marks stamp) (t : Nanos) (ops : List Op) :
    stamp ((starting t).run ops) ≤ ((starting t).run ops).now := by
  obtain ⟨later, hlater⟩ := List.rdropWhile_prefix (fun op => !marks op) ops
  have hsplit : upToLast marks ops ++ later = ops := hlater
  calc stamp ((starting t).run ops)
      = ((starting t).run (upToLast marks ops)).now := s.stamp_run t ops
    _ ≤ (((starting t).run (upToLast marks ops)).run later).now := now_le_run _ later
    _ = ((starting t).run ops).now := by rw [← run_append, hsplit]

theorem stamp_run_of_unmarked (s : Stamps marks stamp) (l : Liveness) {more : List Op}
    (h : ∀ op ∈ more, marks op = false) : stamp (l.run more) = stamp l := by
  induction more generalizing l with
  | nil => rfl
  | cons op more ih =>
    rw [run_cons, ih _ fun op hop => h op (List.mem_cons_of_mem _ hop), s.step,
      h op List.mem_cons_self]
    rfl

end Stamps

/-! ## Durations -/

/-- What holds of a duration that counts from a stamp, after a history. -/
structure Idles (marks : Op → Bool) (stamp idle : Liveness → Nanos) (t : Nanos) (ops : List Op) :
    Prop where
  /-- The stamp is not in the future, so that nothing is cut off. -/
  stamp_le : stamp ((starting t).run ops) ≤ ((starting t).run ops).now
  /-- The duration runs from the clock at the last operation that stamps, or else from the start, to
  the clock now. -/
  since : ((starting t).run (upToLast marks ops)).now + idle ((starting t).run ops) =
    ((starting t).run ops).now
  /-- As long as nothing stamps, the duration does not decrease. -/
  grows : ∀ more, (∀ op ∈ more, marks op = false) →
    idle ((starting t).run ops) ≤ idle ((starting t).run (ops ++ more))

theorem Stamps.idles {marks : Op → Bool} {stamp idle : Liveness → Nanos} (s : Stamps marks stamp)
    (hidle : ∀ l, idle l = l.now - stamp l) (t : Nanos) (ops : List Op) :
    Idles marks stamp idle t ops := by
  have hle := s.stamp_le_now t ops
  refine ⟨hle, ?_, ?_⟩
  · rw [hidle, ← s.stamp_run]
    exact Nat.add_sub_of_le hle
  · intro more hmore
    have hnow := now_le_run ((starting t).run ops) more
    rw [hidle, hidle, run_append, s.stamp_run_of_unmarked _ hmore]
    exact Nat.sub_le_sub_right hnow _

/-- **The idle durations are exact after any history.**
    The clock shows the latest of the start and all its readings.  Since the last operation that
    made a note of hearing, or else since the start, exactly the idle time of hearing has passed on
    the clock; the note is never ahead of the clock, and until the next one the idle time does not
    decrease.  The same holds of sending.  Without the readings of the clock that are not above all
    earlier ones and the start, or a time before the start, the history leads to the same times and
    counts. -/
theorem idle_throughout (t : Nanos) (ops : List Op) :
    (t :: readings ops).max? = some ((starting t).run ops).now ∧
    Idles Op.hears lastHeard idleHeard t ops ∧
    Idles Op.speaks lastSent idleSent t ops ∧
    ∀ latest ≤ t, (starting t).run (advances latest ops) = (starting t).run ops := by
  refine ⟨?_, stamps_lastHeard.idles (fun _ => rfl) t ops,
    stamps_lastSent.idles (fun _ => rfl) t ops, fun latest hlatest => run_advances hlatest ops⟩
  rw [now_run]
  rfl

/-- The clock goes ahead, is set back before the start, and goes ahead again; something is heard in
between. -/
def setBack : List Op := [.tick 7, .heard, .tick 2, .countReceived, .tick 9, .spoke, .tick 5]

/-- A packet is written, and the clock is read twice more. -/
def unheard : List Op := [.spoke, .tick 12, .countSent, .tick 4]

theorem idle_throughout_setBack :
    ((starting 3).run setBack).now = 9 ∧
    7 + ((starting 3).run setBack).idleHeard = 9 ∧
    (∀ op ∈ unheard, op.hears = false) ∧
    ((starting 3).run setBack).idleHeard ≤ ((starting 3).run (setBack ++ unheard)).idleHeard ∧
    (starting 3).run [.tick 7, .heard, .countReceived, .tick 9, .spoke] =
      (starting 3).run setBack := by
  obtain ⟨hlatest, hheard, -, hsame⟩ := idle_throughout 3 setBack
  have hnow : ((starting 3).run setBack).now = 9 := Option.some.inj hlatest.symm
  have hunheard : ∀ op ∈ unheard, op.hears = false := by decide
  refine ⟨hnow, ?_, hunheard, hheard.grows unheard hunheard,
    hsame 3 (Nat.le_refl 3)⟩
  rw [← hnow]
  exact hheard.since

end Reconnect.Liveness
