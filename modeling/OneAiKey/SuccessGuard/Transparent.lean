/-
  OneAiKey.SuccessGuard.Transparent — the guard loses, repeats and reorders no
  byte.

  Each exit of the guard has one obligation: the prefix and what the plain
  stream behind it relays are together the upstream's items.  The adapters that
  `pass_through` then adds do not change what is relayed.  The loop's invariant
  is that the prefix read so far is followed by the items that are left.

  Main results:
    * `guardLoop_passesOn` — every exit of the loop;
    * `success_guard_transparent` — polled to its end, what is passed through is
      the upstream body, its error in place, and then only errors of the guard.
-/
import OneAiKey.SuccessGuard

namespace OneAiKey

/-! ## §1. The exits. -/

/-- What is passed through after `replayed` was read and `chunks`, and then `tail`, are
left: a plain stream behind the prefix, together the same bytes, and the same tail. -/
def PassesOn (input : GuardInput) (replayed : Bytes) (chunks : List Bytes)
    (tail : List StreamItem) (result : Except IoError GuardResult) : Prop :=
  ∀ outcome (replayed' : Bytes) (stream : ByteStream),
    result = .ok (.passThrough outcome replayed' stream) →
    replayed'.length ≤ input.maxBytes ∧ ∃ (rest : List Bytes) (plain : ByteStream),
      plain.Plain ∧ plain.relayed = rest.map .ok ++ tail ∧
      replayed' ++ rest.flatten = replayed ++ chunks.flatten ∧
      passThrough input outcome replayed' plain = .passThrough outcome replayed' stream

/-- The same of what the returned stream relays. -/
def RelaysRest (input : GuardInput) (replayed : Bytes) (chunks : List Bytes)
    (tail : List StreamItem) (result : Except IoError GuardResult) : Prop :=
  ∀ outcome (replayed' : Bytes) (stream : ByteStream),
    result = .ok (.passThrough outcome replayed' stream) →
    replayed'.length ≤ input.maxBytes ∧ ∃ rest : List Bytes,
      stream.relayed = rest.map .ok ++ tail ∧
      replayed' ++ rest.flatten = replayed ++ chunks.flatten

variable {input : GuardInput}

/-- The adapters of `pass_through` relay what the stream relays. -/
theorem passThrough_relayed (input : GuardInput) (outcome : GuardOutcome) (replayed : Bytes) (stream : ByteStream) :
    ∃ stream', passThrough input outcome replayed stream =
        .passThrough outcome replayed stream' ∧ stream'.relayed = stream.relayed := by
  have hlength : ∀ expected : Nat, (enforceContentLength stream replayed.length
      expected).relayed = stream.relayed := by
    intro expected
    unfold enforceContentLength
    split <;> rfl
  unfold passThrough
  dsimp only
  refine ⟨_, rfl, ?_⟩
  split
  · unfold enforceStructuredEof
    split
    · exact hlength _
    · rfl
  · split
    · exact hlength _
    · rfl

theorem passesOn_passThrough (rest : List Bytes) {outcome : GuardOutcome}
    {replayed replayed' : Bytes} {stream : ByteStream} {chunks : List Bytes}
    {tail : List StreamItem}
    (hlength : replayed'.length ≤ input.maxBytes) (hplain : stream.Plain)
    (hrelayed : stream.relayed = rest.map .ok ++ tail)
    (hbytes : replayed' ++ rest.flatten = replayed ++ chunks.flatten) :
    PassesOn input replayed chunks tail (.ok (passThrough input outcome replayed' stream)) := by
  intro outcome' replayed'' stream' hresult
  obtain ⟨passed, hpass, -⟩ := passThrough_relayed input outcome replayed' stream
  have hsame := Except.ok.inj hresult
  rw [hpass] at hresult
  cases hresult
  exact ⟨hlength, rest, stream, hplain, hrelayed, hbytes, hsame⟩

theorem passesOn_classified {failure : ClassifiedFailure} {replayed : Bytes}
    {chunks : List Bytes} {tail : List StreamItem} :
    PassesOn input replayed chunks tail (.ok (.classified failure)) := by
  intro outcome replayed' stream hresult
  cases hresult

theorem PassesOn.relaysRest {replayed : Bytes} {chunks : List Bytes} {tail : List StreamItem}
    {result : Except IoError GuardResult} (h : PassesOn input replayed chunks tail result) :
    RelaysRest input replayed chunks tail result := by
  intro outcome replayed' stream hresult
  obtain ⟨hlength, rest, plain, -, hrelayed, hbytes, hpass⟩ := h outcome replayed' stream hresult
  obtain ⟨passed, hpass', hsame⟩ := passThrough_relayed input outcome replayed' plain
  rw [hpass] at hpass'
  cases hpass'
  exact ⟨hlength, rest, hsame.trans hrelayed, hbytes⟩

/-! ## §2. The loop. -/

/-- Every exit of the loop, by induction on the chunks that are left. -/
theorem guardLoop_passesOn (timing : Nat → LoopTiming) (err : Option IoError) (chunks : List Bytes) :
    ∀ (n : Nat) (replayed : Bytes), replayed.length ≤ input.maxBytes →
      PassesOn input replayed chunks (err.toList.map .error)
        (guardLoop input timing n replayed
          (chunks.map .ok ++ err.toList.map .error)) := by
  induction chunks with
  | nil =>
      intro n replayed hlength
      have hpass : ∀ outcome, PassesOn input replayed [] (err.toList.map .error)
          (.ok (passThrough input outcome replayed (.upstream (err.toList.map .error)))) :=
        fun outcome => passesOn_passThrough [] hlength trivial rfl rfl
      rw [List.map_nil, List.nil_append]
      unfold guardLoop
      -- the exits before the next poll pass on the stream as it stands
      split
      · exact passesOn_classified
      · exact hpass _
      · split
        · exact hpass _
        · split
          · exact hpass _
          · exact hpass _
          · cases err with
            | some err =>
                -- the error goes on behind the prefix, unless nothing was read before it
                show PassesOn input replayed [] _ (if replayed.isEmpty then _ else _)
                split
                · intro outcome replayed' stream hresult
                  cases hresult
                · exact passesOn_passThrough [] hlength trivial rfl rfl
            | none =>
                -- the prefix is the whole body
                rw [Option.toList_none, List.map_nil]
                dsimp only
                split
                · exact passesOn_classified
                · exact hpass _
                · exact hpass _
  | cons chunk chunks ih =>
      intro n replayed hlength
      have hpass : ∀ outcome, PassesOn input replayed (chunk :: chunks) (err.toList.map .error)
          (.ok (passThrough input outcome replayed
            (.upstream ((chunk :: chunks).map .ok ++ err.toList.map .error)))) :=
        fun outcome => passesOn_passThrough (chunk :: chunks) hlength trivial rfl rfl
      rw [List.map_cons, List.cons_append]
      unfold guardLoop
      split
      · exact passesOn_classified
      · exact hpass _
      · split
        · exact hpass _
        · split
          · exact hpass _
          · exact hpass _
          · dsimp only
            split
            · -- the chunk fits
              next hfits =>
                intro outcome replayed' stream hresult
                have hlength' : (replayed ++ chunk).length ≤ input.maxBytes := by
                  rw [List.length_append]
                  omega
                obtain ⟨hshort, rest, plain, hplain, hrelayed, hbytes, hpass⟩ :=
                  ih (n + 1) (replayed ++ chunk) hlength' outcome replayed' stream hresult
                refine ⟨hshort, rest, plain, hplain, hrelayed, ?_, hpass⟩
                rw [hbytes, List.flatten_cons, List.append_assoc]
            · -- the chunk overflows the cap: its end is replayed before the rest
              next hover =>
                have hsplit := List.take_append_drop (input.maxBytes - replayed.length) chunk
                have hlength' : (replayed ++ chunk.take (input.maxBytes -
                    replayed.length)).length ≤ input.maxBytes := by
                  rw [List.length_append, List.length_take]
                  omega
                have hdrop : (chunk.drop (input.maxBytes - replayed.length)).isEmpty = false := by
                  rw [List.isEmpty_eq_false_iff, ← List.length_pos_iff, List.length_drop]
                  omega
                have hrelayed : (prefixedBodyStream (chunk.drop (input.maxBytes -
                    replayed.length)) (.upstream (chunks.map .ok ++
                      err.toList.map .error))).relayed =
                    (chunk.drop (input.maxBytes - replayed.length) :: chunks).map .ok ++
                      err.toList.map .error := by
                  unfold prefixedBodyStream
                  rw [hdrop]
                  rfl
                split
                · exact passesOn_classified
                · refine passesOn_passThrough (_ :: chunks) hlength' trivial hrelayed ?_
                  rw [List.flatten_cons, List.flatten_cons, List.append_assoc,
                    ← List.append_assoc (chunk.take _), hsplit]

/-- The guard passes the upstream body on. -/
theorem guardSuccessByteStream_passesOn (timing : Nat → LoopTiming) (err : Option IoError)
    (chunks : List Bytes) :
    PassesOn input [] chunks (err.toList.map .error)
      (guardSuccessByteStream input timing (chunks.map .ok ++ err.toList.map .error)) := by
  unfold guardSuccessByteStream
  split
  · exact passesOn_passThrough chunks (Nat.zero_le _) trivial rfl rfl
  · exact guardLoop_passesOn timing err chunks 0 [] (Nat.zero_le _)

/-- The guard relays the upstream body. -/
theorem guardSuccessByteStream_spec (timing : Nat → LoopTiming) (err : Option IoError)
    (chunks : List Bytes) :
    RelaysRest input [] chunks (err.toList.map .error)
      (guardSuccessByteStream input timing (chunks.map .ok ++ err.toList.map .error)) :=
  (guardSuccessByteStream_passesOn timing err chunks).relaysRest

/-! ## §3. The guard is transparent. -/

/-- For every body, cut into chunks in any way and possibly ended by an error, every
response head, cap and timing: if the guard passes the response through, then the prefix
is at most the cap, and the prefix with what the returned stream gives until its end is
the body, byte for byte, then the upstream's error if there was one, and only then errors
that the guard adds. -/
theorem success_guard_transparent (input : GuardInput) (timing : Nat → LoopTiming)
    (chunks : List Bytes) (err : Option String) :
    match guardSuccessByteStream input timing
        (chunks.map .ok ++ err.toList.map fun message => .error (.upstream message)) with
    | .ok (.passThrough _ replayed stream) =>
        replayed.length ≤ input.maxBytes ∧
        ∃ (rest : List Bytes) (added : List IoError),
          stream.Drains (rest.map .ok ++ (err.toList.map fun message => .error (.upstream message))
            ++ added.map .error) ∧
          replayed ++ rest.flatten = chunks.flatten ∧ ∀ e ∈ added, e.Added
    | .ok (.classified _) => True
    | .error _ => True := by
  have hspec := @guardSuccessByteStream_spec input timing (err.map .upstream) chunks
  have htail : ((err.map IoError.upstream).toList.map Except.error : List StreamItem) =
      err.toList.map fun message => .error (.upstream message) := by
    cases err <;> rfl
  rw [htail] at hspec
  split
  · next outcome replayed stream hresult =>
      obtain ⟨hlength, rest, hrelayed, hbytes⟩ := hspec outcome replayed stream hresult
      obtain ⟨added, hdrains, hadded⟩ := stream.drains_relayed _ hrelayed
      exact ⟨hlength, rest, added, hdrains, hbytes, hadded⟩
  · trivial
  · trivial

end OneAiKey
