/-
  OneAiKey.SuccessGuard.Chunking — how the chunks of a body bear on the verdict
  of the guard (`guard_success_byte_stream` of `src/success_guard.rs`).

  The guard looks at the prefix after every chunk.  Its verdict is that of the
  first prefix that settles the matter, at the latest that of the body's first
  `max_bytes` bytes.  A server-sent event that is complete stays the first one
  whatever follows.  A JSON text does not: bytes behind a complete value make
  it invalid.

  Main results:
    * `guardLoop_of_agreeing` — the loop, when every settled prefix says the same;
    * `firstCompleteDataEvent_append` — a complete event stays;
    * `guard_verdict_of_bytes_iff` — when the bytes alone decide the verdict.
-/
import OneAiKey.SuccessGuard

namespace OneAiKey

/-! ## §1. Verdicts. -/

/-- What the caller acts on: the failure, if there is one. -/
def GuardResult.verdict : GuardResult → Option ClassifiedFailure
  | passThrough _ _ _ => none
  | classified failure => some failure

def GuardProgress.verdict : GuardProgress → Option ClassifiedFailure
  | classified failure => some failure
  | pass _ => none
  | needMore => none

section Verdicts

variable (input : GuardInput)

/-- The response is one that the guard looks at. -/
def GuardInput.Inspects : Prop :=
  shouldGuardSuccessStatus input.status = true ∧ hasZeroContentLength input.headers = false ∧
    input.maxBytes ≠ 0

/-- The failure that a JSON text is classified as, if it is an error envelope. -/
def envelopeVerdict (body : Bytes) : Option ClassifiedFailure :=
  match input.parseJson body with
  | .value value =>
      if (structuredErrorShape value).isSome then
        some (input.classifier.classifyFailure input.status input.headers body)
      else none
  | .eof | .invalid => none

/-- The failure that the first complete event is classified as. -/
def eventVerdict (body : Bytes) : Option ClassifiedFailure :=
  match firstCompleteDataEvent body with
  | none => none
  | some event =>
      if trimAscii event.data = "[DONE]".toList.map (fun c => c.toNat.toUInt8) then none
      else envelopeVerdict input (trimAscii event.data)

/-- The verdict of a prefix. -/
def prefixVerdict (body : Bytes) : Option ClassifiedFailure :=
  if shouldGuardSuccessStatus input.status then
    match classifyContentType input.contentType with
    | .json => envelopeVerdict input body
    | .sse => eventVerdict input body
    | .other => none
  else none

/-- The guard does not wait for more. -/
def PrefixSettled (body : Bytes) : Prop :=
  inspectSuccessProgress input body false false ≠ .needMore

end Verdicts

variable {input : GuardInput}

theorem classifyStructuredJson_verdict {body : Bytes} {value : Json} {otherwise : GuardProgress}
    (hparse : input.parseJson body = .value value) (hpass : otherwise.verdict = none) :
    (classifyStructuredJson input value body otherwise).verdict = envelopeVerdict input body := by
  unfold classifyStructuredJson envelopeVerdict
  rw [hparse]
  show (if _ then _ else _ : GuardProgress).verdict = if _ then _ else _
  split
  · rfl
  · exact hpass

theorem inspectJsonPrefix_verdict (body : Bytes) (capExhausted bodyComplete : Bool) :
    (inspectJsonPrefix input body capExhausted bodyComplete).verdict =
      envelopeVerdict input body := by
  unfold inspectJsonPrefix
  split
  · next value hparse => exact classifyStructuredJson_verdict hparse rfl
  · next hparse =>
      unfold envelopeVerdict
      rw [hparse]
      split <;> rfl
  · next hparse =>
      unfold envelopeVerdict
      rw [hparse]
      rfl

theorem inspectSsePrefix_verdict (body : Bytes) (capExhausted bodyComplete : Bool) :
    (inspectSsePrefix input body capExhausted bodyComplete).verdict =
      eventVerdict input body := by
  unfold inspectSsePrefix eventVerdict
  cases firstCompleteDataEvent body with
  | none =>
      show (if _ then _ else _ : GuardProgress).verdict = none
      split
      · rfl
      · split <;> rfl
  -- the first complete event decides, whatever follows
  | some event =>
      show (if _ then _ else _ : GuardProgress).verdict = if _ then _ else _
      split
      · rfl
      · split
        · next value hparse => exact classifyStructuredJson_verdict hparse rfl
        · next hparse =>
            unfold envelopeVerdict
            rw [hparse]
            rfl
        · next hparse =>
            unfold envelopeVerdict
            rw [hparse]
            rfl

/-- Neither the cap nor the end of the body bears on what an inspection says. -/
theorem inspectSuccessProgress_verdict (body : Bytes) (capExhausted bodyComplete : Bool) :
    (inspectSuccessProgress input body capExhausted bodyComplete).verdict =
      prefixVerdict input body := by
  unfold inspectSuccessProgress prefixVerdict
  cases shouldGuardSuccessStatus input.status with
  | false => rfl
  | true =>
      show GuardProgress.verdict (match classifyContentType input.contentType with
        | .json => inspectJsonPrefix input body capExhausted bodyComplete
        | .sse => inspectSsePrefix input body capExhausted bodyComplete
        | .other => .pass (if capExhausted then .capExhausted else .parseUnsupported)) = _
      cases classifyContentType input.contentType with
      | json => exact inspectJsonPrefix_verdict body capExhausted bodyComplete
      | sse => exact inspectSsePrefix_verdict body capExhausted bodyComplete
      | other => rfl

/-! ## §2. The loop. -/

/-- The loop ends with this verdict when the deadline never strikes. -/
def LoopVerdict (input : GuardInput) (n : Nat) (replayed : Bytes) (chunks : List Bytes)
    (verdict : Option ClassifiedFailure) : Prop :=
  ∃ result, guardLoop input (fun _ => .inTime) n replayed (chunks.map .ok) = .ok result ∧
    result.verdict = verdict

/-- A turn whose inspection does not ask for more, or whose prefix is full, is the last. -/
theorem loopVerdict_of_settled {n : Nat} {replayed : Bytes} {chunks : List Bytes}
    (h : PrefixSettled input replayed ∨ input.maxBytes ≤ replayed.length) :
    LoopVerdict input n replayed chunks (prefixVerdict input replayed) := by
  have hverdict := @inspectSuccessProgress_verdict input replayed
    (decide (input.maxBytes ≤ replayed.length)) false
  unfold LoopVerdict
  unfold guardLoop
  split
  · next failure hinspect =>
      rw [hinspect] at hverdict
      exact ⟨_, rfl, hverdict⟩
  · next outcome hinspect =>
      rw [hinspect] at hverdict
      exact ⟨_, rfl, hverdict⟩
  · next hinspect =>
      -- only a full prefix can still ask for more here
      have hfull : input.maxBytes ≤ replayed.length := by
        by_contra hroom
        rw [decide_eq_false hroom] at hinspect
        exact h.elim (fun hsettled => hsettled hinspect) hroom
      rw [hinspect] at hverdict
      rw [if_pos hfull]
      exact ⟨_, rfl, hverdict⟩

/-- At the end of the body the verdict is that of the whole prefix. -/
theorem loopVerdict_nil (n : Nat) (replayed : Bytes) :
    LoopVerdict input n replayed [] (prefixVerdict input replayed) := by
  by_cases h : PrefixSettled input replayed ∨ input.maxBytes ≤ replayed.length
  · exact loopVerdict_of_settled h
  · have hroom : ¬ input.maxBytes ≤ replayed.length := fun hfull => h (.inr hfull)
    have hneed : inspectSuccessProgress input replayed false false = .needMore :=
      Classical.not_not.mp fun hsettled => h (.inl hsettled)
    -- the body has ended, so the last look at the prefix decides
    have hverdict := @inspectSuccessProgress_verdict input replayed false true
    unfold LoopVerdict
    unfold guardLoop
    rw [decide_eq_false hroom, hneed]
    dsimp only
    rw [if_neg hroom]
    show ∃ result, (match inspectSuccessProgress input replayed false true with
      | .classified failure => .ok (.classified failure)
      | .pass outcome => .ok (passThrough input outcome replayed (.upstream []))
      | .needMore => .ok (passThrough input (outcomeFromEof input replayed) replayed
          (.upstream []))) = Except.ok result ∧ _
    split
    · next failure hinspect =>
        rw [hinspect] at hverdict
        exact ⟨_, rfl, hverdict⟩
    · next outcome hinspect =>
        rw [hinspect] at hverdict
        exact ⟨_, rfl, hverdict⟩
    · next hinspect =>
        rw [hinspect] at hverdict
        exact ⟨_, rfl, hverdict⟩

/-- A chunk that fits is read when the prefix so far settles nothing. -/
theorem loopVerdict_cons {n : Nat} {replayed chunk : Bytes} {chunks : List Bytes}
    {verdict : Option ClassifiedFailure} (hneed : ¬ PrefixSettled input replayed)
    (hfits : replayed.length + chunk.length ≤ input.maxBytes)
    (hroom : ¬ input.maxBytes ≤ replayed.length)
    (hrest : LoopVerdict input (n + 1) (replayed ++ chunk) chunks verdict) :
    LoopVerdict input n replayed (chunk :: chunks) verdict := by
  unfold LoopVerdict
  unfold guardLoop
  rw [decide_eq_false hroom, Classical.not_not.mp hneed]
  dsimp only
  rw [if_neg hroom, List.map_cons]
  dsimp only
  rw [if_pos (show chunk.length ≤ input.maxBytes - replayed.length by omega)]
  exact hrest

/-- A chunk that overflows the cap is cut there, and the verdict is that of the full prefix. -/
theorem loopVerdict_cons_of_overflow {n : Nat} {replayed chunk : Bytes} {chunks : List Bytes}
    (hneed : ¬ PrefixSettled input replayed)
    (hover : input.maxBytes < replayed.length + chunk.length)
    (hroom : ¬ input.maxBytes ≤ replayed.length) :
    LoopVerdict input n replayed (chunk :: chunks)
      (prefixVerdict input (replayed ++ chunk.take (input.maxBytes - replayed.length))) := by
  have hverdict := @inspectSuccessProgress_verdict input
    (replayed ++ chunk.take (input.maxBytes - replayed.length)) true false
  unfold LoopVerdict
  unfold guardLoop
  rw [decide_eq_false hroom, Classical.not_not.mp hneed]
  dsimp only
  rw [if_neg hroom, List.map_cons]
  dsimp only
  rw [if_neg (show ¬ chunk.length ≤ input.maxBytes - replayed.length by omega)]
  split
  · next failure hinspect =>
      rw [hinspect] at hverdict
      exact ⟨_, rfl, hverdict⟩
  · next hother =>
      refine ⟨_, rfl, ?_⟩
      rw [← hverdict]
      -- not classified, so there is no verdict
      cases hinspect : inspectSuccessProgress input
          (replayed ++ chunk.take (input.maxBytes - replayed.length)) true false with
      | classified failure => exact absurd hinspect (hother failure)
      | pass outcome => rfl
      | needMore => rfl

/-- When every prefix that settles the matter says what the first `max_bytes` bytes say,
so does the loop, by induction on the chunks that are left. -/
theorem guardLoop_of_agreeing {body : Bytes}
    (hagree : ∀ q, q <+: body.take input.maxBytes → PrefixSettled input q →
      prefixVerdict input q = prefixVerdict input (body.take input.maxBytes))
    (chunks : List Bytes) : ∀ (n : Nat) (replayed : Bytes),
      replayed.length ≤ input.maxBytes → replayed ++ chunks.flatten = body →
      LoopVerdict input n replayed chunks
        (prefixVerdict input (body.take input.maxBytes)) := by
  -- where the loop may stop, its prefix has the verdict of the whole
  have hstop : ∀ (n : Nat) (replayed : Bytes) (chunks : List Bytes),
      replayed.length ≤ input.maxBytes → replayed ++ chunks.flatten = body →
      PrefixSettled input replayed ∨ input.maxBytes ≤ replayed.length →
      LoopVerdict input n replayed chunks (prefixVerdict input (body.take input.maxBytes)) := by
    intro n replayed chunks hlength hbody h
    have hread : replayed <+: body.take input.maxBytes := by
      rw [← hbody, List.take_append, List.take_of_length_le hlength]
      exact List.prefix_append _ _
    have hsame : prefixVerdict input replayed =
        prefixVerdict input (body.take input.maxBytes) := by
      cases h with
      | inl hsettled => exact hagree replayed hread hsettled
      | inr hfull =>
          have hle : (body.take input.maxBytes).length ≤ replayed.length := by
            rw [List.length_take]
            omega
          rw [hread.eq_of_length_le hle]
    rw [← hsame]
    exact loopVerdict_of_settled h
  induction chunks with
  | nil =>
      intro n replayed hlength hbody
      have hall : body.take input.maxBytes = replayed := by
        rw [← hbody, List.flatten_nil, List.append_nil, List.take_of_length_le hlength]
      rw [hall]
      exact loopVerdict_nil n replayed
  | cons chunk chunks ih =>
      intro n replayed hlength hbody
      by_cases h : PrefixSettled input replayed ∨ input.maxBytes ≤ replayed.length
      · exact hstop n replayed (chunk :: chunks) hlength hbody h
      · have hneed : ¬ PrefixSettled input replayed := fun hsettled => h (.inl hsettled)
        have hroom : ¬ input.maxBytes ≤ replayed.length := fun hfull => h (.inr hfull)
        by_cases hfits : replayed.length + chunk.length ≤ input.maxBytes
        · refine loopVerdict_cons hneed hfits hroom (ih (n + 1) _ ?_ ?_)
          · rw [List.length_append]
            exact hfits
          · rw [List.append_assoc, ← List.flatten_cons]
            exact hbody
        · -- the chunk is cut at the limit
          have hcut : body.take input.maxBytes =
              replayed ++ chunk.take (input.maxBytes - replayed.length) := by
            rw [← hbody, List.take_append, List.take_of_length_le hlength, List.flatten_cons,
              List.take_append_of_le_length (by omega)]
          rw [hcut]
          exact loopVerdict_cons_of_overflow hneed (Nat.lt_of_not_le hfits) hroom

/-! ## §3. The first event of a body. -/

/-- A line that is complete stays as it is when more bytes arrive. -/
theorem line_append {rest : Bytes} (more : Bytes) (hlf : lf ∈ rest) :
    (rest ++ more).takeWhile (· ≠ lf) = rest.takeWhile (· ≠ lf) ∧
      (rest.takeWhile (· ≠ lf)).length < rest.length := by
  induction rest with
  | nil => exact absurd hlf List.not_mem_nil
  | cons b rest ih =>
      by_cases hb : b = lf
      · subst hb
        simp
      · have hmem : lf ∈ rest := (List.mem_cons.mp hlf).resolve_left fun h => hb h.symm
        obtain ⟨hsame, hlength⟩ := ih hmem
        have hkeep : ∀ tail : Bytes,
            (b :: tail).takeWhile (· ≠ lf) = b :: tail.takeWhile (· ≠ lf) :=
          fun tail => List.takeWhile_cons_of_pos (by simpa using hb)
        rw [List.cons_append, hkeep, hkeep, hsame]
        exact ⟨rfl, Nat.succ_lt_succ hlength⟩

/-- What the scan finds it finds again with more bytes and more fuel, by induction on the
lines that it has read. -/
theorem firstDataEventLoop_append {event : SseDataEvent} (more : Bytes) (extra : Nat)
    (fuel : Nat) : ∀ (rest : Bytes) (offset : Nat) (dataLines : List Bytes),
      firstDataEventLoop fuel rest offset dataLines = some event →
      firstDataEventLoop (fuel + extra) (rest ++ more) offset dataLines = some event := by
  induction fuel with
  | zero =>
      intro rest offset dataLines h
      cases h
  | succ fuel ih =>
      intro rest offset dataLines h
      rw [Nat.succ_add]
      unfold firstDataEventLoop at h ⊢
      -- an event ends at a line feed, so every line it needs is whole before `more`
      by_cases hlf : lf ∈ rest
      · obtain ⟨hline, hlength⟩ := line_append more hlf
        rw [if_pos hlf] at h
        rw [if_pos (List.mem_append_left more hlf), hline]
        dsimp only at h ⊢
        rw [List.drop_append_of_le_length (Nat.succ_le_of_lt hlength)]
        split at h
        · next hempty =>
            rw [if_pos hempty]
            split at h
            · next hnone =>
                rw [if_pos hnone]
                exact ih _ _ _ h
            · next hsome =>
                rw [if_neg hsome]
                exact h
        · next hline' =>
            rw [if_neg hline']
            split at h
            · next hcomment =>
                rw [if_pos hcomment]
                exact ih _ _ _ h
            · next hfield =>
                rw [if_neg hfield]
                split at h
                · next hdata =>
                    rw [if_pos hdata]
                    exact ih _ _ _ h
                · next hother =>
                    rw [if_neg hother]
                    exact ih _ _ _ h
      · rw [if_neg hlf] at h
        cases h

/-- A complete event stays the first one whatever follows it. -/
theorem firstCompleteDataEvent_append {body : Bytes} {event : SseDataEvent} (more : Bytes)
    (h : firstCompleteDataEvent body = some event) :
    firstCompleteDataEvent (body ++ more) = some event := by
  have happend := firstDataEventLoop_append more more.length (body.length + 1) body 0 [] h
  unfold firstCompleteDataEvent
  rw [List.length_append, show body.length + more.length + 1 = body.length + 1 + more.length by
    omega]
  exact happend

/-! ## §4. When the bytes decide. -/

/-- A prefix of an event stream settles the matter when it has a complete event. -/
theorem exists_event_of_settled {q : Bytes} (hguard : shouldGuardSuccessStatus input.status = true)
    (hsse : classifyContentType input.contentType = .sse) (h : PrefixSettled input q) :
    ∃ event, firstCompleteDataEvent q = some event := by
  cases hevent : firstCompleteDataEvent q with
  | some event => exact ⟨event, rfl⟩
  | none =>
      refine absurd ?_ h
      unfold inspectSuccessProgress inspectSsePrefix
      rw [hguard, hsse, hevent]
      rfl

/-- A prefix of a JSON text settles the matter unless the parser wants more. -/
theorem settled_iff_of_json {q : Bytes} (hguard : shouldGuardSuccessStatus input.status = true)
    (hjson : classifyContentType input.contentType = .json) :
    PrefixSettled input q ↔ input.parseJson q ≠ .eof := by
  unfold PrefixSettled inspectSuccessProgress inspectJsonPrefix classifyStructuredJson
  rw [hguard, hjson]
  cases input.parseJson q with
  | value value =>
      show (if (structuredErrorShape value).isSome = true then GuardProgress.classified _
        else GuardProgress.pass _) ≠ .needMore ↔ _
      split <;> simp
  | eof => simp
  | invalid => simp

/-- Every prefix that the parser does not call unfinished, of the bytes that the guard may
read, is as much of an error envelope as all of them: each such prefix is classified as they
are, or like them not at all. -/
def EnvelopeSettles (input : GuardInput) (body : Bytes) : Prop :=
  ∀ q, q <+: body.take input.maxBytes → input.parseJson q ≠ .eof →
    envelopeVerdict input q = envelopeVerdict input (body.take input.maxBytes)

/-- The guard reads the body in these chunks, without a deadline, and ends with this
verdict. -/
def GuardVerdict (input : GuardInput) (chunks : List Bytes)
    (verdict : Option ClassifiedFailure) : Prop :=
  ∃ result, guardSuccessByteStream input (fun _ => .inTime) (chunks.map .ok) = .ok result ∧
    result.verdict = verdict

theorem guardVerdict_iff (hinspects : input.Inspects) {chunks : List Bytes}
    {verdict : Option ClassifiedFailure} :
    GuardVerdict input chunks verdict ↔ LoopVerdict input 0 [] chunks verdict := by
  obtain ⟨hguard, hlength, hcap⟩ := hinspects
  unfold GuardVerdict LoopVerdict guardSuccessByteStream
  rw [hguard, hlength, beq_eq_false_iff_ne.mpr hcap]
  rfl

theorem prefixVerdict_of_json {q : Bytes} (hguard : shouldGuardSuccessStatus input.status = true)
    (hjson : classifyContentType input.contentType = .json) :
    prefixVerdict input q = envelopeVerdict input q := by
  unfold prefixVerdict
  rw [if_pos hguard, hjson]

/-- A server-sent event that is complete is the first one of the whole body. -/
theorem prefixVerdict_of_sse {q body : Bytes} (hguard : shouldGuardSuccessStatus input.status = true)
    (hsse : classifyContentType input.contentType = .sse) (hread : q <+: body)
    (hsettled : PrefixSettled input q) : prefixVerdict input q = prefixVerdict input body := by
  obtain ⟨event, hevent⟩ := exists_event_of_settled hguard hsse hsettled
  obtain ⟨more, rfl⟩ := hread
  unfold prefixVerdict eventVerdict
  rw [hsse, hevent, firstCompleteDataEvent_append more hevent]

theorem prefixVerdict_of_other {q : Bytes}
    (hother : classifyContentType input.contentType = .other) : prefixVerdict input q = none := by
  unfold prefixVerdict
  rw [hother]
  split <;> rfl

/-- Nothing is settled before the first byte. -/
theorem not_settled_nil (hinspects : input.Inspects)
    (hjson : classifyContentType input.contentType = .json) (hempty : input.parseJson [] = .eof) :
    ¬ PrefixSettled input [] :=
  fun hsettled => (settled_iff_of_json hinspects.1 hjson).mp hsettled hempty

/-- In one chunk: the verdict of the bytes that the guard may read. -/
theorem loopVerdict_one_chunk (hinspects : input.Inspects) (hneed : ¬ PrefixSettled input [])
    (body : Bytes) :
    LoopVerdict input 0 [] [body] (prefixVerdict input (body.take input.maxBytes)) := by
  have hroom : ¬ input.maxBytes ≤ ([] : Bytes).length :=
    fun hfull => hinspects.2.2 (Nat.le_zero.mp hfull)
  by_cases hfits : body.length ≤ input.maxBytes
  · rw [List.take_of_length_le hfits]
    exact loopVerdict_cons hneed (by simpa using hfits) hroom (loopVerdict_nil 1 body)
  · exact loopVerdict_cons_of_overflow hneed (by simpa using Nat.lt_of_not_le hfits) hroom

/-- With a chunk that ends where the matter is settled: the verdict there. -/
theorem loopVerdict_two_chunks (hinspects : input.Inspects) (hneed : ¬ PrefixSettled input [])
    {q : Bytes} (hlength : q.length ≤ input.maxBytes) (hsettled : PrefixSettled input q)
    (rest : Bytes) : LoopVerdict input 0 [] [q, rest] (prefixVerdict input q) := by
  have hroom : ¬ input.maxBytes ≤ ([] : Bytes).length :=
    fun hfull => hinspects.2.2 (Nat.le_zero.mp hfull)
  exact loopVerdict_cons hneed (by simpa using hlength) hroom
    (loopVerdict_of_settled (.inl hsettled))

theorem LoopVerdict.unique {n : Nat} {replayed : Bytes} {chunks : List Bytes}
    {verdict verdict' : Option ClassifiedFailure}
    (h : LoopVerdict input n replayed chunks verdict)
    (h' : LoopVerdict input n replayed chunks verdict') : verdict = verdict' := by
  obtain ⟨result, hrun, rfl⟩ := h
  obtain ⟨result', hrun', rfl⟩ := h'
  rw [hrun] at hrun'
  cases hrun'
  rfl

/-- A response that the guard does not look at is passed on. -/
theorem guardVerdict_of_not_inspects (h : ¬ input.Inspects) (chunks : List Bytes) :
    GuardVerdict input chunks none := by
  have hskip : (!shouldGuardSuccessStatus input.status || hasZeroContentLength input.headers
      || input.maxBytes == 0) = true := by
    by_contra hnot
    refine h ⟨?_, ?_, ?_⟩
    · revert hnot
      cases shouldGuardSuccessStatus input.status <;> simp
    · revert hnot
      cases hasZeroContentLength input.headers <;> simp
    · intro hzero
      simp [hzero] at hnot
  unfold GuardVerdict guardSuccessByteStream
  rw [if_pos hskip]
  exact ⟨_, rfl, rfl⟩

/-- For every response head, classifier, cap and body: without a stream error and a
deadline, any two ways to cut the body into chunks lead to the same failure, or both to the
response being passed on, exactly when the response is not one that the guard inspects as
JSON, or else the parser finds the same envelope in every prefix that it does not call
unfinished. -/
theorem guard_verdict_of_bytes_iff (input : GuardInput) (hempty : input.parseJson [] = .eof)
    (body : Bytes) :
    (∀ chunks chunks' : List Bytes, chunks.flatten = body → chunks'.flatten = body →
      ∃ verdict, GuardVerdict input chunks verdict ∧ GuardVerdict input chunks' verdict) ↔
    (input.Inspects → classifyContentType input.contentType = .json →
      EnvelopeSettles input body) := by
  constructor
  · intro hsame hinspects hjson q hread hparse
    have hsettled := (settled_iff_of_json hinspects.1 hjson).mpr hparse
    have hneed := not_settled_nil hinspects hjson hempty
    obtain ⟨rest, hrest⟩ := hread.trans (List.take_prefix _ _)
    have hlength : q.length ≤ input.maxBytes :=
      Nat.le_trans hread.length_le (List.length_take_le _ _)
    -- cut behind the settled prefix, the body must have the verdict it has in one piece
    obtain ⟨verdict, htwo, hone⟩ := hsame [q, rest] [body] (by simpa using hrest) (by simp)
    have hq := ((guardVerdict_iff hinspects).mp htwo).unique
      (loopVerdict_two_chunks hinspects hneed hlength hsettled rest)
    have hall := ((guardVerdict_iff hinspects).mp hone).unique
      (loopVerdict_one_chunk hinspects hneed body)
    rw [← prefixVerdict_of_json hinspects.1 hjson, ← prefixVerdict_of_json hinspects.1 hjson,
      ← hq, ← hall]
  · intro hsettles chunks chunks' hchunks hchunks'
    by_cases hinspects : input.Inspects
    · have hagree : ∀ q, q <+: body.take input.maxBytes → PrefixSettled input q →
          prefixVerdict input q = prefixVerdict input (body.take input.maxBytes) := by
        intro q hread hsettled
        cases hkind : classifyContentType input.contentType with
        | json =>
            rw [prefixVerdict_of_json hinspects.1 hkind, prefixVerdict_of_json hinspects.1 hkind]
            exact hsettles hinspects hkind q hread
              ((settled_iff_of_json hinspects.1 hkind).mp hsettled)
        | sse => exact prefixVerdict_of_sse hinspects.1 hkind hread hsettled
        | other => rw [prefixVerdict_of_other hkind, prefixVerdict_of_other hkind]
      have hloop : ∀ chunks : List Bytes, chunks.flatten = body →
          GuardVerdict input chunks (prefixVerdict input (body.take input.maxBytes)) := by
        intro chunks hbody
        exact (guardVerdict_iff hinspects).mpr
          (guardLoop_of_agreeing hagree chunks 0 [] (Nat.zero_le _) hbody)
      exact ⟨_, hloop chunks hchunks, hloop chunks' hchunks'⟩
    · exact ⟨none, guardVerdict_of_not_inspects hinspects chunks,
        guardVerdict_of_not_inspects hinspects chunks'⟩

/-! ## §5. An envelope and a byte more. -/

/-- An empty error object: `{"error":{}}`. -/
def emptyEnvelope : Bytes := "\x7b\"error\":\x7b\x7d\x7d".toList.map fun c => c.toNat.toUInt8

/-- What the parser answers on this text, its beginnings, and texts that go on with anything
but white space. -/
def parseEmptyEnvelope (body : Bytes) : JsonParse :=
  if body = emptyEnvelope then .value (.object [("error", .object [])])
  else if body <+: emptyEnvelope then .eof
  else .invalid

/-- A 200 response with a JSON body, on a channel that blames the client for every error. -/
def jsonResponse : GuardInput where
  status := 200
  headers := [("content-type", "application/json")]
  expectedBodyLen := none
  contentType := some "application/json"
  classifier := {
    classifierId := defaultErrorClassifierId
    classifierVersion := errorClassifierVersion
    classifyFailure := fun status _ _ => { classifyTransportFailure with
      kind := .clientError
      primaryScope := .requestOnly
      retryable := false
      upstreamStatus := some status
      upstreamCode := none } }
  maxBytes := 4096
  parseJson := parseEmptyEnvelope

/-- The envelope by itself: whatever the chunks, the response is a failure. -/
theorem guard_verdict_of_bytes_envelope :
    jsonResponse.parseJson [] = .eof ∧
    ∀ chunks chunks' : List Bytes, chunks.flatten = emptyEnvelope →
      chunks'.flatten = emptyEnvelope →
      ∃ verdict, GuardVerdict jsonResponse chunks verdict ∧
        GuardVerdict jsonResponse chunks' verdict := by
  refine ⟨rfl, (guard_verdict_of_bytes_iff jsonResponse rfl emptyEnvelope).mpr ?_⟩
  intro _ _ q hread hparse
  have hall : emptyEnvelope.take jsonResponse.maxBytes = emptyEnvelope := rfl
  rw [hall] at hread ⊢
  by_cases hq : q = emptyEnvelope
  · rw [hq]
  · refine absurd ?_ hparse
    show parseEmptyEnvelope q = .eof
    unfold parseEmptyEnvelope
    rw [if_neg hq, if_pos hread]

theorem jsonResponse_inspects : jsonResponse.Inspects := ⟨rfl, by decide, by decide⟩

theorem jsonResponse_json : classifyContentType jsonResponse.contentType = .json := by decide

/-- With the letter `x` behind it, the envelope is a failure when a chunk ends before the
letter, and the response is passed on when none does. -/
theorem verdict_depends_on_chunks :
    ¬ ∀ chunks chunks' : List Bytes, chunks.flatten = emptyEnvelope ++ [120] →
      chunks'.flatten = emptyEnvelope ++ [120] →
      ∃ verdict, GuardVerdict jsonResponse chunks verdict ∧
        GuardVerdict jsonResponse chunks' verdict := by
  intro hsame
  obtain ⟨verdict, htwo, hone⟩ :=
    hsame [emptyEnvelope, [120]] [emptyEnvelope ++ [120]] (by simp) (by simp)
  have hneed := not_settled_nil jsonResponse_inspects jsonResponse_json rfl
  have hsettled : PrefixSettled jsonResponse emptyEnvelope :=
    (settled_iff_of_json rfl jsonResponse_json).mpr nofun
  have hsplit := ((guardVerdict_iff jsonResponse_inspects).mp htwo).unique
    (loopVerdict_two_chunks jsonResponse_inspects hneed (by decide) hsettled [120])
  have hwhole := ((guardVerdict_iff jsonResponse_inspects).mp hone).unique
    (loopVerdict_one_chunk jsonResponse_inspects hneed (emptyEnvelope ++ [120]))
  have hverdicts := hsplit.symm.trans hwhole
  rw [prefixVerdict_of_json rfl jsonResponse_json,
    prefixVerdict_of_json rfl jsonResponse_json] at hverdicts
  cases hverdicts

end OneAiKey
