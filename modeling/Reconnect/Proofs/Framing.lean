import Reconnect.Proofs.Cutting

/-!
# The grammar of frames

A stream of frames is a row of payloads, each behind its length, and an end that is not a whole
frame.  A decoder never sees the stream as a whole: it gets chunks of any size, is asked for frames
after each of them, and takes a length off its buffer before the payload is there.  What it has read
of the stream is nevertheless always what is written there.

## Protocol

* A payload fits if it is shorter than the limit and its length is a signed word.
* Bytes are refused if they start with a length that is negative or not below the limit; they are
  an incomplete frame if they end within a length or within a payload of an allowed length.
* `Decoder.feed` calls a decoder after each chunk until it finds no frame.  A fault ends the
  reading, and the chunks behind it are not looked at.

## Results

* `cut_frames_append`: cutting a byte string takes off any frames in front whose payloads fit.
* `Decoder.next_cases`: what one call of a decoder makes of the length that it has taken off and of
  its buffer.
* `Decoder.reads_feed`: whatever the chunks, a decoder has read the stream as it is written.
* `Decoder.feed_frames`: **a decoder accepts exactly the grammar, for every chunking.**
-/

namespace Reconnect.Frame

/-! ## Lengths -/

theorem declared_eq_ok_iff {length : Int32} {limit n : Nat} :
    declared length limit = .ok n ↔ length.toInt = n ∧ n < limit := by
  have hzero : length < 0 ↔ length.toInt < 0 := Int32.lt_iff_toInt_lt
  unfold declared
  split
  · rename_i hbad
    rw [hzero] at hbad
    simp only [reduceCtorEq, false_iff]
    omega
  · rename_i hgood
    rw [hzero] at hgood
    simp only [Except.ok.injEq]
    omega

theorem declared_eq_error_iff {length : Int32} {limit : Nat} {fault : Fault} :
    declared length limit = .error fault ↔
      (length.toInt < 0 ∨ limit ≤ length.toInt) ∧ fault = .framing length.toInt limit := by
  have hzero : length < 0 ↔ length.toInt < 0 := Int32.lt_iff_toInt_lt
  unfold declared
  split
  · rename_i hbad
    rw [hzero] at hbad
    have hout : length.toInt < 0 ∨ limit ≤ length.toInt := by omega
    simp only [Except.error.injEq, hout, true_and, eq_comm]
  · rename_i hgood
    rw [hzero] at hgood
    have hin : ¬ (length.toInt < 0 ∨ limit ≤ length.toInt) := by omega
    simp only [reduceCtorEq, hin, false_and]

/-- Four bytes that hold a number from zero on are the length of a frame of that size. -/
theorem eq_ofNat_of_toInt {head : Bytes} {n : Nat} (hlength : head.length = headLength)
    (hn : head.toInt32.toInt = n) : head = Bytes.ofNat headLength n := by
  have hlt : n < 2147483648 := by
    have := head.toInt32.toInt_lt
    omega
  have hword : head.toInt32 = Int32.ofNat n := by
    rw [← Int32.toInt_inj, hn, Int32.toInt_ofNat_of_lt hlt]
  have hround := Bytes.ofInt32_toInt32 hlength
  rw [hword, Bytes.ofInt32, Int32.toUInt32_ofNat', UInt32.toNat_ofNat',
    Nat.mod_eq_of_lt (by omega)] at hround
  exact hround.symm

/-! ## Streams of frames -/

/-- The payloads on the wire, frame behind frame. -/
def frames (payloads : List Bytes) : Bytes := payloads.flatMap encode

theorem frames_nil : frames [] = [] := rfl

theorem frames_cons (payload : Bytes) (payloads : List Bytes) :
    frames (payload :: payloads) = encode payload ++ frames payloads := List.flatMap_cons

theorem frames_append (payloads others : List Bytes) :
    frames (payloads ++ others) = frames payloads ++ frames others := List.flatMap_append

/-- A payload whose length is allowed and can be written. -/
def Fits (limit : Nat) (payload : Bytes) : Prop := payload.length < min limit 2147483648

/-- The signed number in the first four bytes. -/
def lead (bytes : Bytes) : Int := (Bytes.toInt32 (bytes.take headLength)).toInt

/-- The bytes start with a length that is not allowed. -/
def Refused (limit : Nat) (bytes : Bytes) : Prop :=
  headLength ≤ bytes.length ∧ (lead bytes < 0 ∨ limit ≤ lead bytes)

/-- The bytes end within a length, or within a payload whose length is allowed. -/
def Incomplete (limit : Nat) (bytes : Bytes) : Prop :=
  bytes.length < headLength ∨
    0 ≤ lead bytes ∧ lead bytes < limit ∧ bytes.length < headLength + lead bytes

theorem lead_append {bytes : Bytes} (h : headLength ≤ bytes.length) (more : Bytes) :
    lead (bytes ++ more) = lead bytes := by
  rw [lead, List.take_append_of_le_length h, lead]

theorem lead_of_head {head : Bytes} (h : head.length = headLength) (more : Bytes) :
    lead (head ++ more) = head.toInt32.toInt := by
  rw [lead_append (Nat.le_of_eq h.symm), lead, ← h, List.take_length]

theorem split?_take {n : Nat} {bytes : Bytes} (h : n ≤ bytes.length) :
    bytes.split? n = some (bytes.take n, bytes.drop n) :=
  Bytes.split?_eq_some_iff.mpr ⟨(List.take_append_drop n bytes).symm, List.length_take_of_le h⟩

theorem Refused.append {limit : Nat} {bytes : Bytes} (h : Refused limit bytes) (more : Bytes) :
    Refused limit (bytes ++ more) := by
  obtain ⟨hlength, hlead⟩ := h
  refine ⟨?_, ?_⟩
  · rw [List.length_append]
    exact Nat.le_add_right_of_le hlength
  · rw [lead_append hlength]
    exact hlead

/-- A frame in front whose payload fits is cut off. -/
theorem cut_encode_append {limit : Nat} {payload : Bytes} (h : Fits limit payload) (rest : Bytes) :
    cut limit (encode payload ++ rest) =
      (payload :: (cut limit rest).1, (cut limit rest).2) := by
  have hlt : payload.length < limit ∧ payload.length < 2147483648 := Nat.lt_min.mp h
  obtain ⟨head, hencode, hlength, hlead⟩ := encode_eq_head_append hlt.2
  have hhead : Bytes.split? headLength (encode payload ++ rest) = some (head, payload ++ rest) :=
    Bytes.split?_eq_some_iff.mpr ⟨by rw [hencode, List.append_assoc], hlength⟩
  have hdeclared : declared head.toInt32 limit = .ok payload.length :=
    declared_eq_ok_iff.mpr ⟨hlead, hlt.1⟩
  have hpayload : Bytes.split? payload.length (payload ++ rest) = some (payload, rest) :=
    Bytes.split?_eq_some_iff.mpr ⟨rfl, rfl⟩
  rw [cut_eq, hhead]
  simp only [hdeclared, Decoder.payloadAhead, hpayload]

theorem cut_frames_append {limit : Nat} {payloads : List Bytes}
    (h : ∀ p ∈ payloads, Fits limit p) (rest : Bytes) :
    cut limit (frames payloads ++ rest) = (payloads ++ (cut limit rest).1, (cut limit rest).2) := by
  induction payloads with
  | nil => rfl
  | cons payload payloads ih =>
    have hfirst : Fits limit payload := h payload List.mem_cons_self
    have hothers := ih fun p hp => h p (List.mem_cons_of_mem payload hp)
    rw [frames_cons, List.append_assoc, cut_encode_append hfirst, hothers, List.cons_append]

theorem cut_of_refused {limit : Nat} {bytes : Bytes} (h : Refused limit bytes) :
    cut limit bytes = ([], some (.framing (lead bytes) limit)) := by
  obtain ⟨hlength, hlead⟩ := h
  have hdeclared : declared (Bytes.toInt32 (bytes.take headLength)) limit =
      .error (.framing (lead bytes) limit) := declared_eq_error_iff.mpr ⟨hlead, rfl⟩
  rw [cut_eq, split?_take hlength]
  simp only [hdeclared]

theorem cut_of_incomplete {limit : Nat} {bytes : Bytes} (h : Incomplete limit bytes) :
    cut limit bytes = ([], none) := by
  by_cases hshort : bytes.length < headLength
  · rw [cut_eq, Bytes.split?_eq_none_iff.mpr hshort]
  · obtain ⟨hzero, hlimit, hlength⟩ := h.resolve_left hshort
    obtain ⟨n, hn⟩ := Int.eq_ofNat_of_zero_le hzero
    have hdeclared : declared (Bytes.toInt32 (bytes.take headLength)) limit = .ok n :=
      declared_eq_ok_iff.mpr ⟨hn, by omega⟩
    have hpayload : Bytes.split? n (bytes.drop headLength) = none := by
      apply Bytes.split?_eq_none_iff.mpr
      rw [List.length_drop]
      omega
    rw [cut_eq, split?_take (Nat.le_of_not_lt hshort)]
    simp only [hdeclared, Decoder.payloadAhead, hpayload]

/-! ## One call of a decoder -/

namespace Decoder

/-- The bytes that a decoder has taken off its buffer for a frame that is not complete. -/
def taken (d : Decoder) : Bytes :=
  match d.expected with
  | none => []
  | some n => Bytes.ofNat headLength n

/-- The length that a decoder has read ahead is allowed, and was a signed word. -/
def Sound (d : Decoder) : Prop := ∀ n ∈ d.expected, n < min d.limit 2147483648

/-- The buffer ends before the length, or before the payload, that a decoder wants next. -/
def Waits (d : Decoder) (buffer : Bytes) : Prop :=
  match d.expected with
  | none => buffer.length < headLength
  | some n => buffer.length < n

theorem sound_reset (d : Decoder) : d.reset.Sound := by
  intro n hn
  cases hn

theorem payload_cases (d : Decoder) {n : Nat} (hn : n < min d.limit 2147483648) (buffer : Bytes) :
    (∃ payload rest, Fits d.limit payload ∧
      Bytes.ofNat headLength n ++ buffer = encode payload ++ rest ∧
      d.payload n buffer = ⟨.frame payload, d.reset, rest⟩) ∨
    buffer.length < n ∧
      d.payload n buffer = ⟨.incomplete, { d with expected := some n }, buffer⟩ := by
  unfold payload
  cases hsplit : buffer.split? n with
  | none => exact .inr ⟨Bytes.split?_eq_none_iff.mp hsplit, rfl⟩
  | some parts =>
    obtain ⟨payload, rest⟩ := parts
    obtain ⟨rfl, rfl⟩ := Bytes.split?_eq_some_iff.mp hsplit
    exact .inl ⟨payload, rest, hn, (List.append_assoc ..).symm, rfl⟩

/-- **A call takes a frame off the stream, or finds that the end of the stream is too short, or
refuses the length that comes next.**  The stream is what the decoder has taken off its buffer, and
then the buffer. -/
theorem next_cases {d : Decoder} (h : d.Sound) (buffer : Bytes) :
    (∃ payload rest, Fits d.limit payload ∧ d.taken ++ buffer = encode payload ++ rest ∧
      d.next buffer = ⟨.frame payload, d.reset, rest⟩) ∨
    (∃ (d' : Decoder) (rest : Bytes), d'.limit = d.limit ∧ d'.Sound ∧
      d.taken ++ buffer = d'.taken ++ rest ∧ d'.Waits rest ∧
      d.next buffer = ⟨.incomplete, d', rest⟩) ∨
    d.expected = none ∧ Refused d.limit buffer ∧
      d.next buffer =
        ⟨.invalid (.framing (lead buffer) d.limit), d, buffer.drop headLength⟩ := by
  -- both with a length read ahead and with one read now, the rest is `payload`
  have ahead {n : Nat} (bytes : Bytes) (hn : n < min d.limit 2147483648) :
      (∃ payload rest, Fits d.limit payload ∧
        Bytes.ofNat headLength n ++ bytes = encode payload ++ rest ∧
        d.payload n bytes = ⟨.frame payload, d.reset, rest⟩) ∨
      ∃ (d' : Decoder) (rest : Bytes), d'.limit = d.limit ∧ d'.Sound ∧
        Bytes.ofNat headLength n ++ bytes = d'.taken ++ rest ∧ d'.Waits rest ∧
        d.payload n bytes = ⟨.incomplete, d', rest⟩ := by
    rcases d.payload_cases hn bytes with hframe | ⟨hshort, hpayload⟩
    · exact .inl hframe
    · refine .inr ⟨{ d with expected := some n }, bytes, rfl, ?_, rfl, hshort, hpayload⟩
      intro m hm
      obtain rfl : n = m := Option.some.inj hm
      exact hn
  unfold next
  cases hexpected : d.expected with
  | some n =>
    have htaken : d.taken = Bytes.ofNat headLength n := by rw [taken, hexpected]
    rw [htaken]
    rcases ahead buffer (h n hexpected) with hframe | hincomplete
    · exact .inl hframe
    · exact .inr (.inl hincomplete)
  | none =>
    have htaken : d.taken = [] := by rw [taken, hexpected]
    by_cases hshort : buffer.length < headLength
    · rw [Bytes.split?_eq_none_iff.mpr hshort]
      refine .inr (.inl ⟨d, buffer, rfl, h, rfl, ?_, rfl⟩)
      rw [Waits, hexpected]
      exact hshort
    · have hlength : headLength ≤ buffer.length := Nat.le_of_not_lt hshort
      have hhead : (buffer.take headLength).length = headLength := List.length_take_of_le hlength
      rw [split?_take hlength]
      cases hdeclared : declared (Bytes.toInt32 (buffer.take headLength)) d.limit with
      | error fault =>
        obtain ⟨hbad, rfl⟩ := declared_eq_error_iff.mp hdeclared
        refine .inr (.inr ⟨rfl, ⟨hlength, hbad⟩, ?_⟩)
        simp only [hdeclared]
        rfl
      | ok n =>
        obtain ⟨hn, hlimit⟩ := declared_eq_ok_iff.mp hdeclared
        have hword := (Bytes.toInt32 (buffer.take headLength)).toInt_lt
        have hstream : buffer = Bytes.ofNat headLength n ++ buffer.drop headLength := by
          rw [← eq_ofNat_of_toInt hhead hn, List.take_append_drop]
        have hmin : n < min d.limit 2147483648 := Nat.lt_min.mpr ⟨hlimit, by omega⟩
        simp only [hdeclared, htaken, List.nil_append]
        rcases ahead (buffer.drop headLength) hmin with hframe | hincomplete
        · rw [← hstream] at hframe
          exact .inl hframe
        · rw [← hstream] at hincomplete
          exact .inr (.inl hincomplete)

end Decoder

/-! ## Reading in chunks -/

namespace Found

/-- The payload that a call has found. -/
def payload? : Found → Option Bytes
  | frame payload => some payload
  | _ => none

/-- The fault that a call has found. -/
def fault? : Found → Option Fault
  | invalid fault => some fault
  | _ => none

end Found

/-- What a decoder has made of the chunks that it was fed. -/
structure Fed where
  payloads : List Bytes
  /-- Why the reading has ended, if it has. -/
  fault : Option Fault
  decoder : Decoder
  buffer : Bytes
  /-- The chunks behind the one with the fault. -/
  unread : List Bytes
deriving DecidableEq, Repr

namespace Decoder

/-- Calls a decoder until it finds no frame. -/
def drain (d : Decoder) (buffer : Bytes) : Fed :=
  let out := d.all buffer
  { payloads := out.1.filterMap Found.payload?
    fault := out.1.findSome? Found.fault?
    decoder := out.2.1
    buffer := out.2.2
    unread := [] }

/-- Puts one chunk after the other behind the buffer, and calls the decoder after each of them until
it finds no frame. -/
def feed (d : Decoder) (buffer : Bytes) : List Bytes → Fed
  | [] => ⟨[], none, d, buffer, []⟩
  | chunk :: chunks =>
    let now := d.drain (buffer ++ chunk)
    match now.fault with
    | some _ => { now with unread := chunks }
    | none =>
      let later := now.decoder.feed now.buffer chunks
      { later with payloads := now.payloads ++ later.payloads }

section Drain

variable {d d' : Decoder} {buffer rest : Bytes}

theorem drain_of_frame {payload : Bytes} (h : d.next buffer = ⟨.frame payload, d', rest⟩) :
    d.drain buffer = { d'.drain rest with payloads := payload :: (d'.drain rest).payloads } := by
  rw [drain, all]
  split
  · rename_i front hfound
    simp only [h, Found.frame.injEq] at hfound
    subst hfound
    simp only [h]
    rfl
  · rename_i hnone
    exact (hnone payload (by rw [h])).elim

/-- Whatever is not a frame ends the calls. -/
theorem drain_of_end {found : Found} (hend : found.payload? = none)
    (h : d.next buffer = ⟨found, d', rest⟩) :
    d.drain buffer = ⟨[], found.fault?, d', rest, []⟩ := by
  have hlast : d.all buffer = ([found], d', rest) := by
    rw [all]
    split
    · rename_i front hfound
      rw [h] at hfound
      dsimp only at hfound
      subst hfound
      cases hend
    · simp only [h]
  simp only [drain, hlast, List.filterMap_cons_none hend, List.filterMap_nil,
    List.findSome?_singleton]

end Drain

/-- What a stream of `bytes` has left in a decoder that was fed with it: the frames are found, and
what follows them is either held back by the decoder or refused. -/
structure Reads (limit : Nat) (bytes : Bytes) (fed : Fed) : Prop where
  limit_eq : fed.decoder.limit = limit
  sound : fed.decoder.Sound
  fits : ∀ p ∈ fed.payloads, Fits limit p
  waits : fed.fault = none →
    bytes = frames fed.payloads ++ (fed.decoder.taken ++ fed.buffer) ∧
    fed.decoder.Waits fed.buffer ∧ fed.unread = []
  refused : ∀ fault, fed.fault = some fault → ∃ rest,
    bytes = frames fed.payloads ++ rest ∧ Refused limit rest ∧
    fault = .framing (lead rest) limit ∧ fed.decoder.expected = none ∧
    rest.drop headLength = fed.buffer ++ fed.unread.flatten

/-- Frames in front of a stream come in front of what was found in it. -/
theorem Reads.prepend {limit : Nat} {bytes : Bytes} {fed : Fed} (reads : Reads limit bytes fed)
    {payloads : List Bytes} (h : ∀ p ∈ payloads, Fits limit p) :
    Reads limit (frames payloads ++ bytes) { fed with payloads := payloads ++ fed.payloads } where
  limit_eq := reads.limit_eq
  sound := reads.sound
  fits := by
    intro p hp
    rcases List.mem_append.mp hp with hp | hp
    · exact h p hp
    · exact reads.fits p hp
  waits := by
    intro hfault
    obtain ⟨hbytes, hwaits, hunread⟩ := reads.waits hfault
    refine ⟨?_, hwaits, hunread⟩
    rw [hbytes, frames_append, List.append_assoc]
  refused := by
    intro fault hfault
    obtain ⟨rest, hbytes, hrest⟩ := reads.refused fault hfault
    refine ⟨rest, ?_, hrest⟩
    rw [hbytes, frames_append, List.append_assoc]

theorem reads_drain {d : Decoder} (h : d.Sound) (buffer : Bytes) :
    Reads d.limit (d.taken ++ buffer) (d.drain buffer) := by
  rcases next_cases h buffer with ⟨payload, rest, hfits, hstream, hnext⟩ |
    ⟨d', rest, hlimit, hsound, hstream, hwaits, hnext⟩ | ⟨hexpected, hrefused, hnext⟩
  · have hfound : (d.next buffer).found = .frame payload := by rw [hnext]
    have hless : d.reset.work rest < d.work buffer := by
      have := next_frame_lt hfound
      rwa [hnext] at this
    have hothers : Reads d.limit rest (d.reset.drain rest) := reads_drain d.sound_reset rest
    have hone : ∀ p ∈ [payload], Fits d.limit p := by
      intro p hp
      obtain rfl := List.mem_singleton.mp hp
      exact hfits
    have hall := hothers.prepend hone
    rw [frames_cons, frames_nil, List.append_nil] at hall
    rw [drain_of_frame hnext, hstream]
    exact hall
  · rw [drain_of_end rfl hnext, hstream]
    refine ⟨hlimit, hsound, fun p hp => (List.not_mem_nil hp).elim, ?_, ?_⟩
    · intro _
      exact ⟨rfl, hwaits, rfl⟩
    · intro fault hfault
      cases hfault
  · have htaken : d.taken = [] := by rw [taken, hexpected]
    rw [drain_of_end rfl hnext, htaken]
    refine ⟨rfl, h, fun p hp => (List.not_mem_nil hp).elim, ?_, ?_⟩
    · intro hfault
      cases hfault
    · intro fault hfault
      obtain rfl := Option.some.inj hfault
      exact ⟨buffer, rfl, hrefused, rfl, hexpected, (List.append_nil _).symm⟩
termination_by d.work buffer

/-- **Whatever the chunks, a decoder has read the stream as it is written.** -/
theorem reads_feed {d : Decoder} (h : d.Sound) {buffer : Bytes} (hwaits : d.Waits buffer)
    (chunks : List Bytes) :
    Reads d.limit (d.taken ++ (buffer ++ chunks.flatten)) (d.feed buffer chunks) := by
  induction chunks generalizing d buffer with
  | nil =>
    refine ⟨rfl, h, fun p hp => (List.not_mem_nil hp).elim, ?_, ?_⟩
    · intro _
      rw [List.flatten_nil, List.append_nil]
      exact ⟨rfl, hwaits, rfl⟩
    · intro fault hfault
      cases hfault
  | cons chunk chunks ih =>
    have now := reads_drain h (buffer ++ chunk)
    rw [List.flatten_cons, ← List.append_assoc, ← List.append_assoc]
    unfold feed
    cases hfault : (d.drain (buffer ++ chunk)).fault with
    | some fault =>
      -- the chunks that are left only make the refused end of the stream longer
      simp only [hfault]
      obtain ⟨rest, hbytes, hrefused, rfl, hexpected, hdrop⟩ := now.refused fault hfault
      refine ⟨now.limit_eq, now.sound, now.fits, ?_, ?_⟩
      · intro hnone
        cases hnone
      · intro _ hsome
        obtain rfl := Option.some.inj hsome
        refine ⟨rest ++ chunks.flatten, ?_, hrefused.append _, ?_, hexpected, ?_⟩
        · rw [List.append_assoc d.taken, hbytes, List.append_assoc]
        · rw [lead_append hrefused.1]
        · have hunread : (d.drain (buffer ++ chunk)).unread.flatten = [] := rfl
          rw [hunread, List.append_nil] at hdrop
          rw [List.drop_append_of_le_length hrefused.1, hdrop]
    | none =>
      simp only [hfault]
      obtain ⟨hbytes, hlater, -⟩ := now.waits hfault
      have later := ih now.sound hlater
      rw [now.limit_eq] at later
      have hall := later.prepend now.fits
      rw [List.append_assoc d.taken, hbytes, List.append_assoc, List.append_assoc]
      exact hall

/-- What a decoder holds back is the start of a frame.  A length is read ahead of it exactly if the
length is there as a whole. -/
theorem incomplete_of_waits {d : Decoder} (h : d.Sound) {buffer : Bytes}
    (hwaits : d.Waits buffer) :
    Incomplete d.limit (d.taken ++ buffer) ∧
    (∀ n, d.expected = some n ↔
      headLength ≤ (d.taken ++ buffer).length ∧ lead (d.taken ++ buffer) = n) ∧
    buffer = if (d.taken ++ buffer).length < headLength then d.taken ++ buffer
      else (d.taken ++ buffer).drop headLength := by
  unfold Waits at hwaits
  unfold taken
  cases hexpected : d.expected with
  | none =>
    rw [hexpected] at hwaits
    simp only [List.nil_append]
    refine ⟨.inl hwaits, fun n => ?_, (if_pos hwaits).symm⟩
    simp only [reduceCtorEq, false_iff, not_and]
    intro hlength
    exact absurd hwaits (Nat.not_lt.mpr hlength)
  | some m =>
    rw [hexpected] at hwaits
    have hm := Nat.lt_min.mp (h m hexpected)
    have hhead : (Bytes.ofNat headLength m).length = headLength := Bytes.length_ofNat headLength m
    have hlead : lead (Bytes.ofNat headLength m ++ buffer) = m := by
      rw [lead_of_head hhead]
      exact Bytes.toInt_toInt32_ofNat hm.2
    have hlength : (Bytes.ofNat headLength m ++ buffer).length = headLength + buffer.length := by
      rw [List.length_append, hhead]
    simp only
    refine ⟨.inr ?_, fun n => ?_, ?_⟩
    · rw [hlead, hlength]
      omega
    · rw [hlead, hlength, Option.some.injEq]
      omega
    · rw [if_neg (by omega), List.drop_left' hhead]

end Decoder

/-! ## The grammar -/

/-- What was made of the chunks of a stream of `bytes` is what the grammar says: frames, and `rest`
behind them. -/
structure Fed.Parses (limit : Nat) (bytes rest : Bytes) (fed : Fed) : Prop where
  stream : bytes = frames fed.payloads ++ rest
  fits : ∀ p ∈ fed.payloads, Fits limit p
  /-- Nothing but a length that is not allowed ends the reading. -/
  fault : fed.fault ≠ none ↔ Refused limit rest
  /-- Of what is refused only the length is taken off, and no frame is expected then. -/
  refused : Refused limit rest →
    fed.fault = some (.framing (lead rest) limit) ∧ fed.decoder = { limit } ∧
    fed.buffer ++ fed.unread.flatten = rest.drop headLength
  /-- What is not refused is the start of a frame, whose length is expected once it is there. -/
  incomplete : ¬ Refused limit rest →
    Incomplete limit rest ∧ fed.decoder.limit = limit ∧
    (∀ n, fed.decoder.expected = some n ↔ headLength ≤ rest.length ∧ lead rest = n) ∧
    fed.buffer = (if rest.length < headLength then rest else rest.drop headLength) ∧
    fed.unread = []

theorem not_refused_of_incomplete {limit : Nat} {bytes : Bytes} (h : Incomplete limit bytes) :
    ¬ Refused limit bytes := by
  rintro ⟨hlength, hlead⟩
  rcases h with hshort | ⟨hzero, hlimit, -⟩
  · omega
  · omega

theorem Decoder.Reads.parses {limit : Nat} {bytes : Bytes} {fed : Fed}
    (reads : Reads limit bytes fed) : ∃ rest, fed.Parses limit bytes rest := by
  cases hfault : fed.fault with
  | none =>
    obtain ⟨hbytes, hwaits, hunread⟩ := reads.waits hfault
    obtain ⟨hincomplete, hexpected, hbuffer⟩ := incomplete_of_waits reads.sound hwaits
    rw [reads.limit_eq] at hincomplete
    have hnot := not_refused_of_incomplete hincomplete
    refine ⟨fed.decoder.taken ++ fed.buffer, hbytes, reads.fits, ?_, ?_, ?_⟩
    · rw [hfault]
      exact ⟨fun h => (h rfl).elim, fun h => (hnot h).elim⟩
    · intro hrefused
      exact (hnot hrefused).elim
    · intro _
      exact ⟨hincomplete, reads.limit_eq, hexpected, hbuffer, hunread⟩
  | some fault =>
    obtain ⟨rest, hbytes, hrefused, rfl, hexpected, hdrop⟩ := reads.refused fault hfault
    have hdecoder : fed.decoder = { limit } := by
      rw [← reads.limit_eq, ← hexpected]
    refine ⟨rest, hbytes, reads.fits, ?_, ?_, ?_⟩
    · rw [hfault]
      exact ⟨fun _ => hrefused, fun _ h => by cases h⟩
    · intro _
      exact ⟨hfault, hdecoder, hdrop.symm⟩
    · intro hnot
      exact (hnot hrefused).elim

/-- Cutting the bytes at once finds the payloads and the fault that the grammar says. -/
theorem Fed.Parses.cut_eq {limit : Nat} {bytes rest : Bytes} {fed : Fed}
    (h : fed.Parses limit bytes rest) : cut limit bytes = (fed.payloads, fed.fault) := by
  rw [h.stream, cut_frames_append h.fits]
  by_cases hrefused : Refused limit rest
  · rw [cut_of_refused hrefused, (h.refused hrefused).1, List.append_nil]
  · have hnone : fed.fault = none := by
      have := mt h.fault.mp hrefused
      simpa using this
    rw [cut_of_incomplete (h.incomplete hrefused).1, hnone, List.append_nil]

/-- There is one way to read a stream.  After a fault two readers may differ in how many of the
chunks behind it they have got. -/
theorem Fed.Parses.unique {limit : Nat} {bytes rest rest' : Bytes} {fed other : Fed}
    (h : fed.Parses limit bytes rest) (h' : other.Parses limit bytes rest') :
    rest = rest' ∧ fed.payloads = other.payloads ∧ fed.fault = other.fault ∧
    (fed.fault = none → fed = other) := by
  have hcut : (fed.payloads, fed.fault) = (other.payloads, other.fault) := by
    rw [← h.cut_eq, ← h'.cut_eq]
  obtain ⟨hpayloads, hfault⟩ := Prod.mk.inj hcut
  have hrest : rest = rest' := by
    have hstream := h.stream
    rw [h'.stream, hpayloads] at hstream
    exact (List.append_cancel_left hstream).symm
  subst hrest
  refine ⟨rfl, hpayloads, hfault, fun hnone => ?_⟩
  have hnot : ¬ Refused limit rest := fun hrefused => h.fault.mpr hrefused hnone
  obtain ⟨-, hlimit, hexpected, hbuffer, hunread⟩ := h.incomplete hnot
  obtain ⟨-, hlimit', hexpected', hbuffer', hunread'⟩ := h'.incomplete hnot
  have hsame : fed.decoder.expected = other.decoder.expected :=
    Option.ext fun n => (hexpected n).trans (hexpected' n).symm
  obtain ⟨payloads, fault, ⟨_, expected⟩, buffer, unread⟩ := fed
  obtain ⟨payloads', fault', ⟨_, expected'⟩, buffer', unread'⟩ := other
  dsimp only at *
  subst hpayloads hfault hlimit hlimit' hsame hbuffer hbuffer' hunread hunread'
  rfl

/-- Frames that are there as a whole, with nothing behind them. -/
theorem Fed.parses_frames {limit : Nat} {payloads : List Bytes}
    (h : ∀ p ∈ payloads, Fits limit p) :
    (Fed.mk payloads none { limit } [] []).Parses limit (frames payloads) [] := by
  have hempty : Incomplete limit [] := .inl (Nat.zero_lt_succ 3)
  have hnot := not_refused_of_incomplete hempty
  refine ⟨(List.append_nil _).symm, h, ?_, fun hrefused => (hnot hrefused).elim, fun _ => ?_⟩
  · exact ⟨fun hne => (hne rfl).elim, fun hrefused => (hnot hrefused).elim⟩
  · refine ⟨hempty, rfl, fun n => ?_, rfl, rfl⟩
    simp [headLength]

namespace Decoder

theorem parses_feed (limit : Nat) (chunks : List Bytes) :
    ∃ rest, (({ limit } : Decoder).feed [] chunks).Parses limit chunks.flatten rest := by
  have hsound : ({ limit } : Decoder).Sound := fun n hn => by cases hn
  have hwaits : ({ limit } : Decoder).Waits [] := Nat.zero_lt_succ 3
  exact (reads_feed hsound hwaits chunks).parses

/-- **A decoder accepts exactly the grammar of frames, for every chunking.**
    Chunks of any size are read as if all bytes came at once.  The stream is the frames that were
    found, and an end: the reading has failed exactly if the end starts with a length that is not
    allowed, and then these four bytes are taken and all behind them is left; any other end is an
    incomplete frame, and its length is expected exactly if it is there.  In turn, whole frames with
    payloads that fit are read back, and nothing is left. -/
theorem feed_frames (limit : Nat) (chunks : List Bytes) :
    (∃ rest, (({ limit } : Decoder).feed [] chunks).Parses limit chunks.flatten rest) ∧
    (({ limit } : Decoder).feed [] chunks).payloads =
      (({ limit } : Decoder).feed [] [chunks.flatten]).payloads ∧
    (({ limit } : Decoder).feed [] chunks).fault =
      (({ limit } : Decoder).feed [] [chunks.flatten]).fault ∧
    ((({ limit } : Decoder).feed [] chunks).fault = none →
      ({ limit } : Decoder).feed [] chunks = ({ limit } : Decoder).feed [] [chunks.flatten]) ∧
    ∀ payloads, (∀ p ∈ payloads, Fits limit p) → chunks.flatten = frames payloads →
      ({ limit } : Decoder).feed [] chunks = ⟨payloads, none, { limit }, [], []⟩ := by
  obtain ⟨rest, hchunks⟩ := parses_feed limit chunks
  obtain ⟨rest', hwhole⟩ := parses_feed limit [chunks.flatten]
  rw [List.flatten_singleton] at hwhole
  obtain ⟨-, hpayloads, hfault, hsame⟩ := hchunks.unique hwhole
  refine ⟨⟨rest, hchunks⟩, hpayloads, hfault, hsame, fun payloads hfits hframes => ?_⟩
  rw [hframes] at hchunks
  obtain ⟨-, -, -, heq⟩ := (Fed.parses_frames hfits).unique hchunks
  exact (heq rfl).symm

/-- Two frames, the second of them empty, cut within a length and within a payload. -/
theorem feed_straddling :
    ({ limit := 3 } : Decoder).feed [] [[0, 0], [0, 2, 7], [], [8, 0, 0, 0, 0]] =
      ⟨[[7, 8], []], none, { limit := 3 }, [], []⟩ :=
  (feed_frames 3 [[0, 0], [0, 2, 7], [], [8, 0, 0, 0, 0]]).2.2.2.2 [[7, 8], []]
    (by simp [Fits]) (by decide)

end Decoder

end Reconnect.Frame
