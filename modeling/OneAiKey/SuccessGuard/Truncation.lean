/-
  OneAiKey.SuccessGuard.Truncation — which bodies the guard reports as cut short
  (`pass_through` and its two adapters in `src/success_guard.rs`).

  One adapter counts the bytes against the declared length, the other keeps a
  copy of the body up to the cap and inspects it at the end.  Both start from
  the prefix that was read already.  Each has one lemma about a whole run; what
  they see together is the prefix and the rest of the stream, that is the body.

  Main results:
    * `consumed_contentLength`, `consumed_structuredEof` — a run of each adapter;
    * `truncation_reported_iff` — when an error item is added.
-/
import OneAiKey.SuccessGuard.Chunking
import OneAiKey.SuccessGuard.Transparent

namespace OneAiKey

/-! ## §1. The adapters. -/

namespace ByteStream

/-- The counting adapter adds an error when the bytes are fewer than expected. -/
theorem consumed_contentLength {expected : Nat} (hexpected : expected < 2 ^ 64)
    (chunks : List Bytes) : ∀ (stream : ByteStream) (seen : Nat),
      stream.Consumed chunks none →
      ∃ err, (ByteStream.contentLength stream seen expected false).Consumed chunks err ∧
        (err.isSome = true ↔ seen + chunks.flatten.length < expected) := by
  induction chunks with
  | nil =>
      intro stream seen h
      cases h with
      | @done _ stream' hnext =>
          -- the inner stream is at its end: it is short, or the count has been reached
          by_cases hshort : seen < expected
          · have hnext' : (ByteStream.contentLength stream seen expected false).next =
                (.item (.error (.shortBody seen expected)),
                  .contentLength stream' seen expected true) := by
              rw [next, hnext]
              simp [hshort]
            exact ⟨_, .failed hnext', by simpa using hshort⟩
          · have hnext' : (ByteStream.contentLength stream seen expected false).next =
                (.done, .exhausted) := by
              rw [next, hnext]
              simp [hshort]
            exact ⟨none, .done hnext', by simpa using hshort⟩
  | cons chunk chunks ih =>
      intro stream seen h
      cases h with
      | @chunk _ stream' _ _ _ hnext hrest =>
          obtain ⟨err, hconsumed, hiff⟩ := ih stream' (saturatingAdd seen chunk.length) hrest
          refine ⟨err, .chunk ?_ hconsumed, ?_⟩
          · rw [next, hnext]
          · -- a count that saturates is not short of any length
            rw [hiff, List.flatten_cons, List.length_append]
            unfold saturatingAdd
            omega

/-- A full copy is not inspected: the errors are the stream's own. -/
theorem consumed_structuredEof_capped (isIncomplete : Bytes → Bool) (maxBytes : Nat)
    (pending : Bytes) {err : Option IoError} (chunks : List Bytes) : ∀ stream : ByteStream,
      stream.Consumed chunks err →
      (ByteStream.structuredEof stream pending isIncomplete maxBytes true false).Consumed
        chunks err := by
  induction chunks with
  -- what the stream ends with is passed on, an error as well as the end
  | nil =>
      intro stream h
      cases h with
      | done hnext =>
          have hnext' : (ByteStream.structuredEof stream pending isIncomplete maxBytes true
              false).next = (.done, .exhausted) := by
            rw [next, hnext]
            rfl
          exact .done hnext'
      | @failed _ stream' err hnext =>
          have hnext' : (ByteStream.structuredEof stream pending isIncomplete maxBytes true
              false).next = (.item (.error err),
                .structuredEof stream' pending isIncomplete maxBytes true false) := by
            rw [next, hnext]
          exact .failed hnext'
  | cons chunk chunks ih =>
      intro stream h
      cases h with
      | @chunk _ stream' _ _ _ hnext hrest =>
          refine .chunk ?_ (ih stream' hrest)
          rw [next, hnext]
          rfl

/-- The copying adapter adds an error when the stream has none, the copy holds all of the
body and is incomplete. -/
theorem consumed_structuredEof {isIncomplete : Bytes → Bool} {maxBytes : Nat}
    {err : Option IoError} (chunks : List Bytes) : ∀ (stream : ByteStream) (pending : Bytes),
      stream.Consumed chunks err → pending.length ≤ maxBytes →
      ∃ err', (ByteStream.structuredEof stream pending isIncomplete maxBytes false
          false).Consumed chunks err' ∧
        (err'.isSome = true ↔ err.isSome = true ∨
          (pending ++ chunks.flatten).length ≤ maxBytes ∧
            isIncomplete (pending ++ chunks.flatten) = true) := by
  induction chunks with
  | nil =>
      intro stream pending h hlength
      rw [List.flatten_nil, List.append_nil]
      cases h with
      | @done _ stream' hnext =>
          -- the copy decides at the end of the body
          cases hincomplete : isIncomplete pending with
          | true =>
              have hnext' : (ByteStream.structuredEof stream pending isIncomplete maxBytes false
                  false).next = (.item (.error .incompleteEnvelope),
                    .structuredEof stream' pending isIncomplete maxBytes false true) := by
                rw [next, hnext]
                simp [hincomplete]
              exact ⟨_, .failed hnext', by simp [hlength]⟩
          | false =>
              have hnext' : (ByteStream.structuredEof stream pending isIncomplete maxBytes false
                  false).next = (.done, .exhausted) := by
                rw [next, hnext]
                simp [hincomplete]
              exact ⟨none, .done hnext', by simp⟩
      | @failed _ stream' err hnext =>
          have hnext' : (ByteStream.structuredEof stream pending isIncomplete maxBytes false
              false).next = (.item (.error err),
                .structuredEof stream' pending isIncomplete maxBytes false false) := by
            rw [next, hnext]
          exact ⟨some err, .failed hnext', by simp⟩
  | cons chunk chunks ih =>
      intro stream pending h hlength
      cases h with
      | @chunk _ stream' _ _ _ hnext hrest =>
          -- does the chunk fit in what is left of the copy?
          by_cases hfits : chunk.length ≤ maxBytes - pending.length
          · have hcopy : copyCapped pending chunk maxBytes false = (pending ++ chunk, false) := by
              unfold copyCapped
              simp [hfits]
            have hlength' : (pending ++ chunk).length ≤ maxBytes := by
              rw [List.length_append]
              omega
            obtain ⟨err', hconsumed, hiff⟩ := ih stream' (pending ++ chunk) hrest hlength'
            refine ⟨err', .chunk ?_ hconsumed, ?_⟩
            · rw [next, hnext]
              dsimp only
              rw [hcopy]
            · rw [hiff, List.flatten_cons, List.append_assoc]
          · -- the copy is full: only the stream's own error is left
            have hcopy : copyCapped pending chunk maxBytes false =
                (pending ++ chunk.take (maxBytes - pending.length), true) := by
              unfold copyCapped
              simp [hfits]
            refine ⟨err, .chunk ?_ (consumed_structuredEof_capped isIncomplete maxBytes
              (pending ++ chunk.take (maxBytes - pending.length)) chunks stream' hrest), ?_⟩
            · rw [next, hnext]
              dsimp only
              rw [hcopy]
            · have hlong : ¬ (pending ++ (chunk :: chunks).flatten).length ≤ maxBytes := by
                rw [List.flatten_cons, List.length_append, List.length_append]
                omega
              exact ⟨fun h => .inl h, fun h => h.elim id fun hfit => absurd hfit.1 hlong⟩

end ByteStream

/-! ## §2. What is passed through. -/

section Reported

variable (input : GuardInput) (outcome : GuardOutcome) (replayed body : Bytes)

/-- The body is shorter than its declared length. -/
def ShortOfDeclared : Prop :=
  ∃ expected, input.expectedBodyLen = some expected ∧ body.length < expected

/-- The body is a structured answer that stops in its middle. -/
def StructurallyIncomplete : Prop :=
  match classifyContentType input.contentType with
  | .json => input.parseJson body = .eof
  | .sse => firstCompleteDataEvent body = none ∧ hasPartialSseDataEvent body = true
  | .other => False

/-- The guard can tell: it has copied the whole body, and the outcome and the encoding let it
look. -/
def InspectedToEnd : Prop :=
  hasNonIdentityContentEncoding input.headers = false ∧ outcome ≠ .capExhausted ∧
    body ≠ [] ∧ body.length ≤ input.maxBytes ∧ replayed.length < input.maxBytes

end Reported

variable {input : GuardInput}

theorem structuredPrefixIsIncomplete_iff {body : Bytes} :
    structuredPrefixIsIncomplete input.parseJson (classifyContentType input.contentType) body =
      true ↔ body ≠ [] ∧ StructurallyIncomplete input body := by
  unfold structuredPrefixIsIncomplete StructurallyIncomplete
  cases body with
  | nil => simp
  | cons b body =>
      cases classifyContentType input.contentType with
      | json => cases input.parseJson (b :: body) <;> simp
      | sse => simp [Option.isNone_iff_eq_none]
      | other => simp

theorem shouldCheckIncompleteStructuredEof_iff {outcome : GuardOutcome} :
    shouldCheckIncompleteStructuredEof outcome input.headers input.contentType = true ↔
      outcome ≠ .capExhausted ∧ hasNonIdentityContentEncoding input.headers = false ∧
        classifyContentType input.contentType ≠ .other := by
  unfold shouldCheckIncompleteStructuredEof
  by_cases hcap : outcome = .capExhausted
  · simp [hcap]
  · cases hencoding : hasNonIdentityContentEncoding input.headers with
    | true => simp
    | false => simp [hcap]

/-- What `pass_through` does with a counted stream. -/
def copiedFor (input : GuardInput) (outcome : GuardOutcome) (replayed : Bytes)
    (counted : ByteStream) : ByteStream :=
  if shouldCheckIncompleteStructuredEof outcome input.headers input.contentType then
    enforceStructuredEof input.parseJson counted replayed
      (classifyContentType input.contentType) input.maxBytes
  else counted

/-- The counting adapter of `pass_through`, if it is there. -/
theorem passThrough_counted
    (hlength : ∀ expected, input.expectedBodyLen = some expected → expected < 2 ^ 64)
    {stream : ByteStream} {rest : List Bytes} (h : stream.Consumed rest none)
    (outcome : GuardOutcome) (replayed : Bytes) :
    ∃ counted err, passThrough input outcome replayed stream =
        .passThrough outcome replayed (copiedFor input outcome replayed counted) ∧
      counted.Consumed rest err ∧
      (err.isSome = true ↔ ShortOfDeclared input (replayed ++ rest.flatten)) := by
  unfold passThrough copiedFor ShortOfDeclared
  cases hexpected : input.expectedBodyLen with
  | none => exact ⟨stream, none, rfl, h, by simp⟩
  | some expected =>
      -- the prefix has the promised length already, and nothing is counted any more
      by_cases hseen : expected ≤ replayed.length
      · refine ⟨stream, none, ?_, h, ?_⟩
        · have hkept : enforceContentLength stream replayed.length expected = stream :=
            if_pos hseen
          dsimp only
          rw [hkept]
        · simp only [Option.isSome_none, Bool.false_eq_true, Option.some.injEq, exists_eq_left',
            List.length_append, false_iff]
          omega
      · obtain ⟨err, hconsumed, hiff⟩ := ByteStream.consumed_contentLength
          (hlength expected hexpected) rest stream replayed.length h
        refine ⟨.contentLength stream replayed.length expected false, err, ?_, hconsumed,
          hiff.trans ?_⟩
        · have hwrapped : enforceContentLength stream replayed.length expected =
              .contentLength stream replayed.length expected false := if_neg hseen
          dsimp only
          rw [hwrapped]
        · simp only [Option.some.injEq, exists_eq_left', List.length_append]

/-- Both adapters of `pass_through`. -/
theorem passThrough_consumed
    (hlength : ∀ expected, input.expectedBodyLen = some expected → expected < 2 ^ 64)
    {stream stream' : ByteStream} {rest : List Bytes} (h : stream.Consumed rest none)
    {outcome : GuardOutcome} {replayed : Bytes}
    (hpass : passThrough input outcome replayed stream = .passThrough outcome replayed stream') :
    ∃ err, stream'.Consumed rest err ∧
      (err.isSome = true ↔ ShortOfDeclared input (replayed ++ rest.flatten) ∨
        InspectedToEnd input outcome replayed (replayed ++ rest.flatten) ∧
          StructurallyIncomplete input (replayed ++ rest.flatten)) := by
  -- the count comes first, the copy for the structural check is laid over it
  obtain ⟨counted, err, hcounted, hconsumed, hshort⟩ :=
    passThrough_counted hlength h outcome replayed
  rw [hpass] at hcounted
  obtain ⟨-, -, rfl⟩ := GuardResult.passThrough.inj hcounted
  unfold copiedFor
  split
  · next hcheck =>
      obtain ⟨houtcome, hencoding, hkind⟩ := shouldCheckIncompleteStructuredEof_iff.mp hcheck
      unfold enforceStructuredEof
      by_cases hfull : input.maxBytes ≤ replayed.length
      · -- nothing is copied behind a full prefix
        rw [decide_eq_true hfull]
        refine ⟨err, ByteStream.consumed_structuredEof_capped _ _ _ rest counted hconsumed, ?_⟩
        rw [hshort]
        refine (or_iff_left ?_).symm
        intro hinspected
        exact absurd hinspected.1.2.2.2.2 (Nat.not_lt_of_le hfull)
      -- what is copied is the prefix that has been inspected
      · rw [decide_eq_false hfull, Nat.min_eq_left (Nat.le_of_not_le hfull), List.take_length]
        obtain ⟨err', hconsumed', hiff⟩ := ByteStream.consumed_structuredEof rest counted
          replayed hconsumed (Nat.le_of_not_le hfull)
        refine ⟨err', hconsumed', ?_⟩
        rw [hiff, hshort, structuredPrefixIsIncomplete_iff]
        refine or_congr Iff.rfl ?_
        constructor
        · intro hadded
          exact ⟨⟨hencoding, houtcome, hadded.2.1, hadded.1, Nat.lt_of_not_le hfull⟩,
            hadded.2.2⟩
        · intro hadded
          exact ⟨hadded.1.2.2.2.1, hadded.1.2.2.1, hadded.2⟩
  · -- no copy is made, and no copy was due
    next hskip =>
      refine ⟨err, hconsumed, ?_⟩
      rw [hshort]
      refine (or_iff_left ?_).symm
      intro hinspected
      refine hskip (shouldCheckIncompleteStructuredEof_iff.mpr
        ⟨hinspected.1.2.1, hinspected.1.1, ?_⟩)
      intro hother
      have hincomplete := hinspected.2
      unfold StructurallyIncomplete at hincomplete
      rw [hother] at hincomplete
      exact hincomplete

/-! ## §3. Truncated successes. -/

/-- For every response head, cap and timing, and every way to cut the body into chunks: if
the guard passes the response on, then reading the returned stream up to its first error
gives the rest of the body, and there is such an error just when the body is shorter than
declared, or when it is a structured answer that stops in its middle and the guard could
look at all of it. -/
theorem truncation_reported_iff (input : GuardInput)
    (hlength : ∀ expected, input.expectedBodyLen = some expected → expected < 2 ^ 64)
    (timing : Nat → LoopTiming) (chunks : List Bytes) :
    match guardSuccessByteStream input timing (chunks.map .ok) with
    | .ok (.passThrough outcome replayed stream) =>
        ∃ (rest : List Bytes) (err : Option IoError), stream.Consumed rest err ∧
          replayed ++ rest.flatten = chunks.flatten ∧
          (err.isSome = true ↔ ShortOfDeclared input chunks.flatten ∨
            InspectedToEnd input outcome replayed chunks.flatten ∧
              StructurallyIncomplete input chunks.flatten)
    | .ok (.classified _) => True
    | .error _ => True := by
  have hspec := @guardSuccessByteStream_passesOn input timing none chunks
  rw [Option.toList_none, List.map_nil, List.append_nil] at hspec
  split
  · next outcome replayed stream hresult =>
      obtain ⟨-, rest, plain, hplain, hrelayed, hbytes, hpass⟩ :=
        hspec outcome replayed stream hresult
      rw [List.append_nil] at hrelayed
      rw [List.nil_append] at hbytes
      obtain ⟨err, hconsumed, hiff⟩ := passThrough_consumed hlength
        (ByteStream.consumed_of_plain rest plain hplain hrelayed) hpass
      rw [hbytes] at hiff
      exact ⟨rest, err, hconsumed, hbytes, hiff⟩
  · trivial
  · trivial

/-- A length that the headers declare fits the counter. -/
theorem expectedBodyLenFromHeaders_lt {headers : List (String × String)} {expected : Nat}
    (h : expectedBodyLenFromHeaders headers = some expected) : expected < 2 ^ 64 := by
  unfold expectedBodyLenFromHeaders at h
  split at h
  · cases h
  · obtain ⟨value, -, hparsed⟩ := Option.bind_eq_some_iff.mp h
    unfold parseUnsigned at hparsed
    dsimp only at hparsed
    split_ifs at hparsed with hempty hfits
    obtain rfl := Option.some.inj hparsed
    exact hfits

def twelveBytesHeaders : List (String × String) :=
  [("content-type", "application/json"), ("content-length", "12")]

/-- Eight bytes of an answer that was declared with twelve. -/
def cutAnswer : GuardInput :=
  { jsonResponse with expectedBodyLen := expectedBodyLenFromHeaders twelveBytesHeaders }

/-- Eight bytes of an answer that was declared with twelve: they are passed on, and then an
error. -/
theorem truncation_reported_cut_answer :
    ∃ outcome replayed stream rest err,
      guardSuccessByteStream cutAnswer (fun _ => .inTime) [.ok (emptyEnvelope.take 8)] =
        .ok (.passThrough outcome replayed stream) ∧
      stream.Consumed rest (some err) ∧ replayed ++ rest.flatten = emptyEnvelope.take 8 := by
  have hlength : ∀ expected, cutAnswer.expectedBodyLen = some expected → expected < 2 ^ 64 := by
    intro expected hexpected
    have hdeclared : expectedBodyLenFromHeaders twelveBytesHeaders = some expected := hexpected
    exact expectedBodyLenFromHeaders_lt hdeclared
  have hspec := truncation_reported_iff cutAnswer hlength (fun _ => .inTime)
    [emptyEnvelope.take 8]
  obtain ⟨outcome, replayed, stream, hrun⟩ : ∃ outcome replayed stream,
      guardSuccessByteStream cutAnswer (fun _ => .inTime) [.ok (emptyEnvelope.take 8)] =
        .ok (.passThrough outcome replayed stream) := ⟨_, _, _, rfl⟩
  rw [List.map_singleton, hrun] at hspec
  obtain ⟨rest, err, hconsumed, hbytes, hiff⟩ := hspec
  obtain ⟨err, rfl⟩ := Option.isSome_iff_exists.mp
    (hiff.mpr (.inl ⟨12, by decide +kernel, by decide⟩))
  exact ⟨outcome, replayed, stream, rest, err, hrun, hconsumed, by simpa using hbytes⟩

end OneAiKey
