import Reconnect.Proofs.Deeds

/-!
# What a cycle does before it reads

A cycle does several things before it gives frames to the client, and which ones they can be depends
on the backend.

## Protocol

* A stream that reports readiness is read before it is written, and that ends the cycle.
* A stream that completes reads and writes goes on after a write that left nothing, for the flush,
  and may read meanwhile.

## Results

* `Transport.beforeProcess_rounds`: what a cycle does before it reads, if it is known what it does
  for a single report.
* `Transport.received_split`: **a client is handed a frame only in a cycle, after that cycle has
  handed over the written requests**, and after work of the kind that the backend allows.
-/

namespace Reconnect

namespace Link

variable {σ : Type}

/-- What neither processes nor writes, and leaves the requests alone that were written. -/
def Op.idle : Op → Bool
  | .fill | .makeRoom | .steer _ | .tick _ | .calm | .established _ _ | .heard _ => true
  | _ => false

/-- What may be done ahead of processing: idle work, and writing. -/
def Op.early : Op → Bool
  | .wrote _ => true
  | op => op.idle

theorem Op.early_of_idle {op : Op} (h : op.idle = true) : op.early = true := by
  cases op <;> first | rfl | exact h

/-- The client is called with what was read only while processing. -/
theorem process_of_calls [Client σ] {l : Link σ} {op : Op} {m : Move} (hm : m ∈ l.moves op)
    (h : m.calls = true) : op = .process := by
  cases op with
  | process => rfl
  | connect e =>
    simp only [moves] at hm
    split at hm
    · cases hm
    · simp only [List.mem_cons, List.not_mem_nil, or_false] at hm
      rcases hm with rfl | rfl <;> cases h
  | fill | wrote n | handOver =>
    obtain ⟨p, -, rfl⟩ := List.mem_map.mp hm
    cases h
  | established localEnd now | pushAhead p | steer actions | calm | reset =>
    obtain rfl := List.mem_singleton.mp hm
    cases h
  | close =>
    simp only [moves, List.mem_cons, List.not_mem_nil, or_false] at hm
    rcases hm with rfl | rfl <;> cases h
  | makeRoom | heard data | tick now | abandonPending => cases hm

/-- Whatever is done before some processing is of the kind. -/
def BeforeProcess (P : Op → Prop) (ops : List Op) : Prop :=
  ∀ before after, ops = before ++ .process :: after → ∀ op ∈ before, P op

section BeforeProcess

variable {P : Op → Prop} {work rest : List Op}

theorem BeforeProcess.mono {Q : Op → Prop} (h : BeforeProcess P work)
    (hPQ : ∀ op, P op → Q op) : BeforeProcess Q work :=
  fun before after hsplit op hop => hPQ op (h before after hsplit op hop)

theorem BeforeProcess.of_not_mem (h : .process ∉ work) : BeforeProcess P work := by
  intro before after hsplit
  rw [hsplit] at h
  simp at h

theorem BeforeProcess.of_forall (h : ∀ op ∈ work, P op) : BeforeProcess P work := by
  intro before after hsplit op hop
  rw [hsplit] at h
  exact h op (List.mem_append_left _ hop)

theorem BeforeProcess.process (h : .process ∉ rest) : BeforeProcess P (.process :: rest) := by
  intro before after hsplit op hop
  cases before with
  | nil => cases hop
  | cons first before =>
    rw [List.cons_append, List.cons.injEq] at hsplit
    rw [hsplit.2] at h
    simp at h

theorem BeforeProcess.append (hw : BeforeProcess P work) (hr : .process ∉ rest) :
    BeforeProcess P (work ++ rest) := by
  intro before after hsplit
  rcases append_eq_append_cons hsplit with ⟨late, hwork, -⟩ | ⟨more, -, hrest⟩
  · exact hw before late hwork
  · rw [hrest] at hr
    simp at hr

theorem BeforeProcess.prepend (hw : ∀ op ∈ work, P op) (hr : BeforeProcess P rest) :
    BeforeProcess P (work ++ rest) := by
  intro before after hsplit op hop
  rcases append_eq_append_cons hsplit with ⟨late, hwork, -⟩ | ⟨more, rfl, hrest⟩
  · rw [hwork] at hw
    exact hw op (List.mem_append_left _ hop)
  · rcases List.mem_append.mp hop with hop | hop
    · exact hw op hop
    · exact hr more after hrest op hop

end BeforeProcess

end Link

namespace Transport

variable {σ α ω : Type}

open Link

theorem idle_armDeeds (t : Transport σ) : ∀ op ∈ t.armDeeds, op.idle = true := by
  intro op hop
  unfold armDeeds at hop
  split at hop
  · simp only [List.mem_cons, List.not_mem_nil, or_false] at hop
    rcases hop with rfl | rfl <;> rfl
  · cases hop
  · cases hop

section Rounds

variable [Client σ] [Carrying α] {P : Op → Prop}

/-- What a signal comes to is idle, unless it is a report of the stream. -/
theorem idle_or_report (t : Transport σ) (now : Nanos) (signal : Signal α) :
    (∀ op ∈ t.signalDeeds now signal, op.idle = true) ∨
      ∃ report, signal = .traffic report ∧ t.carrier = .live ∧
        t.signalDeeds now signal = Carrying.deeds t report := by
  cases signal with
  | opened localEnd =>
    refine .inl fun op hop => ?_
    simp only [signalDeeds] at hop
    split at hop
    · obtain rfl := List.mem_singleton.mp hop
      rfl
    · cases hop
  | traffic report =>
    by_cases hlive : t.carrier = .live
    · exact .inr ⟨report, rfl, hlive, if_pos hlive⟩
    · refine .inl fun op hop => ?_
      simp only [signalDeeds, if_neg hlive] at hop
      cases hop
  | woken =>
    refine .inl fun op hop => ?_
    obtain rfl := List.mem_singleton.mp hop
    rfl
  | refused fault | elapsed => exact .inl fun op hop => by cases hop

theorem takeDeeds_eq (t : Transport σ) (m : Moment (Signal α)) :
    t.takeDeeds m = [.steer m.actions, .tick m.now] ++
      (t.meanwhile m.actions m.now).signalDeeds m.now m.signal := rfl

/-- What a cycle does before it reads, if it is known what it does for a single report: what comes
before the reading of one, and all of one that the cycle goes on after. -/
theorem beforeProcess_rounds (hidle : ∀ op, op.idle = true → P op)
    (hreport : ∀ (t : Transport σ) (report : α), BeforeProcess P (Carrying.deeds t report))
    (hagain : ∀ (t : Transport σ) (report : α), (Backend.carry t report).2 = .again →
      ∀ op ∈ Carrying.deeds t report, P op)
    (await : ω → Wait → Bool → Option (Moment (Signal α) × ω)) (fuel : Nat) (t : Transport σ)
    (around : ω) : BeforeProcess P (roundsDeeds await fuel t around) := by
  have hmeanwhile (m : Moment (Signal α)) : ∀ op ∈ [Op.steer m.actions, .tick m.now], P op := by
    intro op hop
    simp only [List.mem_cons, List.not_mem_nil, or_false] at hop
    rcases hop with rfl | rfl <;> exact hidle _ rfl
  have htake (t : Transport σ) (m : Moment (Signal α)) : BeforeProcess P (t.takeDeeds m) := by
    rw [takeDeeds_eq]
    refine .prepend (hmeanwhile m) ?_
    rcases (t.meanwhile m.actions m.now).idle_or_report m.now m.signal with hop | ⟨r, -, -, hr⟩
    · exact .of_forall fun op h => hidle op (hop op h)
    · rw [hr]
      exact hreport _ r
  have hgoesOn (t : Transport σ) (m : Moment (Signal α)) (h : (t.take m).2 = .again) :
      ∀ op ∈ t.takeDeeds m, P op := by
    intro op hop
    rw [takeDeeds_eq] at hop
    rcases List.mem_append.mp hop with hop | hop
    · exact hmeanwhile m op hop
    · rcases (t.meanwhile m.actions m.now).idle_or_report m.now m.signal with
        hsignal | ⟨r, hr, hlive, hdeeds⟩
      · exact hidle op (hsignal op hop)
      · rw [hdeeds] at hop
        rw [take, hr] at h
        simp only [if_pos hlive] at h
        exact hagain _ r h op hop
  induction fuel generalizing t around with
  | zero => exact .of_not_mem (by simp [roundsDeeds])
  | succ fuel ih =>
    rw [roundsDeeds]
    split
    · refine .of_not_mem ?_
      unfold closeDeeds
      split <;> simp
    · refine .prepend (fun op h => hidle op (t.idle_armDeeds op h)) ?_
      obtain ⟨armed, offer⟩ := t.arm
      cases offer with
      | none => exact .of_not_mem List.not_mem_nil
      | some wait =>
        simp only
        cases await around wait armed.link.control.woken with
        | none => exact .of_not_mem List.not_mem_nil
        | some found =>
          obtain ⟨m, around⟩ := found
          simp only
          cases hm : armed.take m with
          | mk taken next =>
            cases next with
            | again => exact .prepend (hgoesOn armed m (by rw [hm])) (ih taken around)
            | finish => exact (htake armed m).append (by simp)
            | fail fault => exact (htake armed m).append (by simp)

end Rounds

/-! ## Acts -/

theorem process_not_mem_closeDeeds (t : Transport σ) : .process ∉ t.closeDeeds := by
  unfold closeDeeds
  split <;> simp

theorem process_not_mem_sentDeeds (send : Send) (signal : Sent) :
    .process ∉ sentDeeds send signal := by
  cases signal with
  | wrote n =>
    cases send with
    | bytes chunk =>
      simp only [sentDeeds]
      split <;> simp
    | nothing | flush => simp [sentDeeds]
  | blocked | flushed | failed fault | elapsed => simp [sentDeeds]

theorem process_not_mem_drainDeeds (flushes : Bool)
    (await : ω → Send → Option (Moment Sent × ω)) (fuel : Nat) (t : Transport σ) (around : ω) :
    .process ∉ drainDeeds flushes await fuel t around := by
  induction fuel generalizing t around with
  | zero => simp [drainDeeds]
  | succ fuel ih =>
    rw [drainDeeds]
    split
    · simp
    · generalize (if t.link.hasUnsent then Send.bytes t.link.outbound.bytes else .flush) = send
      cases await around send with
      | none => simp
      | some found =>
        obtain ⟨m, around⟩ := found
        have hsent := process_not_mem_sentDeeds send m.signal
        simp only
        obtain ⟨taken, next⟩ := takeSent { t with link := t.link.steer m.actions } send m.signal
        cases next with
        | again => simp [hsent, ih taken around]
        | finish | fail fault => simp [hsent]

/-- Bytes are processed in cycles only. -/
theorem cycle_of_process [Client σ] [Carrying α] {t : Transport σ} {act : Act α}
    (h : .process ∈ t.deeds act) : ∃ now script, act = .cycle now script := by
  cases act with
  | cycle now script => exact ⟨now, script, rfl⟩
  | connect e | cleanup | steer actions | abandonPending => simp [deeds] at h
  | close => exact absurd h t.process_not_mem_closeDeeds
  | sendAhead p script =>
    simp only [deeds, sendAheadDeeds] at h
    split at h
    · rcases List.mem_cons.mp h with h | h
      · cases h
      · exact absurd h (process_not_mem_drainDeeds _ _ _ _ _)
    · cases h

/-- A client is handed a frame only in a cycle, after the requests that were written earlier were
handed over and some work was done. -/
theorem received_split [Client σ] [Carrying α] {P : Op → Prop}
    (hidle : ∀ op, op.idle = true → P op)
    (hreport : ∀ (t : Transport σ) (report : α), BeforeProcess P (Carrying.deeds t report))
    (hagain : ∀ (t : Transport σ) (report : α), (Backend.carry t report).2 = .again →
      ∀ op ∈ Carrying.deeds t report, P op)
    {t : Transport σ} {act : Act α} {before after : List Move} {pending : List Packet}
    {frame : Bytes} {actions : List Control.Action}
    (h : t.moves act = before ++ .received pending frame actions :: after) :
    ∃ now work early late, (∀ op ∈ work, P op) ∧
      (((t.link.tick now).handOver).run work).processMoves =
        early ++ .received pending frame actions :: late ∧
      before = t.link.written.map .handed ++
        (((t.link.tick now).handOver).course work ++ early) := by
  obtain ⟨ops₁, op, ops₂, early, late, hops, hmoves, rfl⟩ := course_split h
  have hmem : Move.received pending frame actions ∈ (t.link.run ops₁).moves op := by
    rw [hmoves]
    simp
  obtain rfl := process_of_calls hmem rfl
  have hprocess : .process ∈ t.deeds act := by
    rw [hops]
    simp
  obtain ⟨now, script, rfl⟩ := cycle_of_process hprocess
  simp only [deeds, cycleDeeds] at hops
  split at hops
  · simp at hops
  · cases ops₁ with
    | nil => simp at hops
    | cons first ops₁ =>
      rw [List.cons_append, List.cons.injEq] at hops
      obtain ⟨rfl, hops⟩ := hops
      cases ops₁ with
      | nil => simp at hops
      | cons second work =>
        rw [List.cons_append, List.cons.injEq] at hops
        obtain ⟨rfl, hops⟩ := hops
        refine ⟨now, work, early, late, ?_, hmoves, ?_⟩
        · exact beforeProcess_rounds hidle hreport hagain _ _ _ _ work ops₂ hops
        · exact List.append_assoc (t.link.written.map .handed) _ early

end Transport

/-! ## Backends -/

/-- Nothing is written before bytes are processed that were read first. -/
theorem beforeProcess_receiveDeeds (data : Bytes) {rest : List Link.Op} (hr : .process ∉ rest) :
    Link.BeforeProcess (fun op => op.idle = true) (receiveDeeds data ++ rest) := by
  unfold receiveDeeds
  split
  · exact .of_not_mem hr
  · have hheard : ∀ op ∈ [Link.Op.heard data], op.idle = true := by
      intro op hop
      obtain rfl := List.mem_singleton.mp hop
      rfl
    change Link.BeforeProcess _ ([.heard data] ++ .process :: rest)
    exact .prepend hheard (.process hr)

namespace Streaming

variable {σ : Type}

theorem beforeProcess_deeds [Client σ] (t : Transport σ) (report : Streaming) :
    Link.BeforeProcess (fun op => op.idle = true) (Carrying.deeds t report) := by
  change Link.BeforeProcess _ (deeds report)
  cases report with
  | received data =>
    have hdeeds : Link.BeforeProcess (fun op => op.idle = true) (receiveDeeds data ++ []) :=
      beforeProcess_receiveDeeds data List.not_mem_nil
    rwa [List.append_nil] at hdeeds
  | wrote n =>
    refine .of_not_mem ?_
    simp only [deeds]
    split <;> simp
  | flushed | failed fault => exact .of_not_mem List.not_mem_nil

/-- A cycle goes on after a write, and after nothing else. -/
theorem early_deeds [Client σ] {t : Transport σ} {report : Streaming}
    (h : (Backend.carry t report).2 = .again) :
    ∀ op ∈ Carrying.deeds t report, op.early = true := by
  intro op hop
  change (carry t report).2 = .again at h
  change op ∈ deeds report at hop
  cases report with
  | received data =>
    simp only [carry, receive] at h
    split at h
    · cases h
    · generalize (t.link.heard data).process.2 = fault at h
      cases fault <;> cases h
  | wrote n =>
    simp only [deeds] at hop
    split at hop
    · cases hop
    · obtain rfl := List.mem_singleton.mp hop
      rfl
  | flushed | failed fault => cases hop

end Streaming

namespace Polling

variable {σ : Type}

/-- Writing is nothing but writes. -/
theorem wrote_of_mem_writeDeeds {t : Transport σ} {outcomes : List (Attempt Nat)} {op : Link.Op}
    (h : op ∈ writeDeeds t outcomes) : ∃ n, op = .wrote n := by
  induction outcomes generalizing t with
  | nil => cases h
  | cons outcome outcomes ih =>
    unfold writeDeeds at h
    split at h
    · cases outcome with
      | blocked | failed fault => cases h
      | done n =>
        cases n with
        | zero => cases h
        | succ n =>
          rcases List.mem_cons.mp h with rfl | h
          · exact ⟨n + 1, rfl⟩
          · exact ih h
    · cases h

/-- What readiness comes to is what is read, and then nothing but filling and writes. -/
theorem deeds_ready [Client σ] (t : Transport σ) (reads : Option (Attempt Bytes))
    (writes : Option (List (Attempt Nat))) :
    ∃ rest, deeds t (ready reads writes) = reads.elim [] readDeeds ++ rest ∧
      ∀ op ∈ rest, op = .fill ∨ ∃ n, op = .wrote n := by
  unfold deeds
  refine ⟨_, rfl, fun op hop => ?_⟩
  split at hop
  · cases hop
  · cases hop
  · rcases List.mem_cons.mp hop with rfl | hop
    · exact .inl rfl
    · exact .inr (wrote_of_mem_writeDeeds hop)

theorem beforeProcess_deeds [Client σ] (t : Transport σ) (report : Polling) :
    Link.BeforeProcess (fun op => op.idle = true) (Carrying.deeds t report) := by
  change Link.BeforeProcess _ (deeds t report)
  cases report with
  | failed fault => exact .of_not_mem List.not_mem_nil
  | ready reads writes =>
    obtain ⟨rest, hdeeds, hrest⟩ := deeds_ready t reads writes
    have hprocess : .process ∉ rest := by
      intro hmem
      rcases hrest _ hmem with h | ⟨n, h⟩ <;> cases h
    rw [hdeeds]
    match reads with
    | some (.done data) => exact beforeProcess_receiveDeeds data hprocess
    | none | some .blocked | some (.failed fault) => exact .of_not_mem hprocess

/-- Readiness ends the cycle. -/
theorem carry_ne_again [Client σ] (t : Transport σ) (report : Polling) :
    (Backend.carry t report).2 ≠ .again := by
  change (carry t report).2 ≠ .again
  cases report with
  | failed fault => simp [carry]
  | ready reads writes =>
    rw [carry_ready]
    split
    · simp
    · simp
    · rename_i outcomes _
      generalize write _ outcomes = written
      obtain ⟨after, fault⟩ := written
      cases fault <;> simp [Next.orFail]

end Polling

end Reconnect
