/-
  OneAiKey.FilterStream.UpstreamError — what the filtered stream has written when
  the upstream fails (`filter_response_stream` of `src/upstream_response.rs`).

  An error of the upstream is passed on at once, and what is pending stays
  pending.  Without a change by the filter, the bytes of the body are therefore
  all written before the error just when none are pending then.  Releases keep
  the bytes that an event boundary may still need, so what is pending at the
  error is empty exactly when the body ends at an event boundary.

  Main results:
    * `sseEventEnd_append_kept` — a release does not move an event boundary;
    * `emitted_before_error` — the stream up to the error, from any state;
    * `flushed_before_error_iff` — when the error comes after all bytes.
-/
import OneAiKey.FilterStream.Chunking
import OneAiKey.ResponseFilter.Redact

namespace OneAiKey

/-! ## §1. Event boundaries behind a release. -/

/-- A pattern that is no longer than what is left occurs there. -/
theorem occursEnding_of_append {pattern before behind : Bytes} {stop : Nat}
    (hlength : pattern.length ≤ stop)
    (h : OccursEnding pattern (before ++ behind) (before.length + stop)) :
    OccursEnding pattern behind stop := by
  obtain ⟨hle, hsuffix⟩ := h
  rw [List.length_append] at hle
  have hstop : stop ≤ behind.length := by omega
  refine ⟨hstop, ?_⟩
  have htake : (before ++ behind).take (before.length + stop) = before ++ behind.take stop := by
    rw [List.take_append, List.take_of_length_le (Nat.le_add_right _ _),
      Nat.add_sub_cancel_left]
  rw [htake] at hsuffix
  refine List.suffix_of_suffix_length_le hsuffix (List.suffix_append _ _) ?_
  rw [List.length_take]
  omega

theorem occursEnding_append_left {pattern behind : Bytes} (before : Bytes) {stop : Nat}
    (h : OccursEnding pattern behind stop) :
    OccursEnding pattern (before ++ behind) (before.length + stop) := by
  obtain ⟨hle, hsuffix⟩ := h
  refine ⟨by rw [List.length_append]; omega, ?_⟩
  rw [List.take_append, List.take_of_length_le (Nat.le_add_right _ _), Nat.add_sub_cancel_left]
  exact hsuffix.trans (List.suffix_append _ _)

theorem eventBoundary_of_append {before behind : Bytes} {stop : Nat} (hlength : 4 ≤ stop)
    (h : EventBoundary (before ++ behind) (before.length + stop)) : EventBoundary behind stop := by
  cases h with
  | inl hlf => exact .inl (occursEnding_of_append (Nat.le_trans (by decide) hlength) hlf)
  | inr hcrlf => exact .inr (occursEnding_of_append hlength hcrlf)

theorem eventBoundary_append_left {behind : Bytes} (before : Bytes) {stop : Nat}
    (h : EventBoundary behind stop) : EventBoundary (before ++ behind) (before.length + stop) := by
  cases h with
  | inl hlf => exact .inl (occursEnding_append_left before hlf)
  | inr hcrlf => exact .inr (occursEnding_append_left before hcrlf)

/-- Of pending bytes without a boundary it is enough to keep the last ones: the first boundary
with the bytes that follow is the same one. -/
theorem sseEventEnd_append_kept {before kept more : Bytes}
    (hnone : sseEventEnd (before ++ kept) = none) (hkept : 4 ≤ kept.length) :
    sseEventEnd (before ++ kept ++ more) =
      (sseEventEnd (kept ++ more)).map (before.length + ·) := by
  have hshift : ∀ stop, EventBoundary (before ++ kept ++ more) stop →
      ∃ stop', stop = before.length + stop' ∧ EventBoundary (kept ++ more) stop' := by
    intro stop hstop
    -- a boundary that is not among the pending bytes ends behind them
    have hbehind : (before ++ kept).length < stop := by
      by_contra hin
      exact not_eventBoundary_of_none hnone stop
        ((eventBoundary_append (Nat.le_of_not_lt hin)).mp hstop)
    rw [List.length_append] at hbehind
    have hstop' : EventBoundary (before ++ (kept ++ more))
        (before.length + (stop - before.length)) := by
      rw [← List.append_assoc, Nat.add_sub_cancel' (by omega)]
      exact hstop
    exact ⟨stop - before.length, by omega, eventBoundary_of_append (by omega) hstop'⟩
  cases hfound : sseEventEnd (kept ++ more) with
  | none =>
      rw [Option.map_none]
      cases hall : sseEventEnd (before ++ kept ++ more) with
      | none => rfl
      | some stop =>
          obtain ⟨stop', -, hboundary⟩ := hshift stop (sseEventEnd_eq_some_iff.mp hall).1
          exact absurd hboundary (not_eventBoundary_of_none hfound stop')
  | some stop =>
      obtain ⟨hboundary, hfirst⟩ := sseEventEnd_eq_some_iff.mp hfound
      rw [Option.map_some, List.append_assoc]
      refine sseEventEnd_eq_some_iff.mpr ⟨eventBoundary_append_left before hboundary, ?_⟩
      intro stop' hstop'
      rw [← List.append_assoc] at hstop'
      obtain ⟨stop'', rfl, hboundary'⟩ := hshift stop' hstop'
      exact Nat.add_le_add_left (hfirst stop'' hboundary') _

/-! ## §2. What follows the last event. -/

/-- The bytes behind the last event boundary. -/
def unfinishedSegment (body : Bytes) : Bytes :=
  match _h : sseEventEnd body with
  | some stop => unfinishedSegment (body.drop stop)
  | none => body
termination_by body.length
decreasing_by exact length_drop_lt_of_event (by assumption)

theorem unfinishedSegment_of_some {body : Bytes} {stop : Nat} (h : sseEventEnd body = some stop) :
    unfinishedSegment body = unfinishedSegment (body.drop stop) := by
  conv_lhs => unfold unfinishedSegment
  split
  · next stop' hstop' =>
      rw [h] at hstop'
      cases hstop'
      rfl
  · next hnone =>
      rw [h] at hnone
      cases hnone

theorem unfinishedSegment_of_none {body : Bytes} (h : sseEventEnd body = none) :
    unfinishedSegment body = body := by
  unfold unfinishedSegment
  split
  · next stop' hstop' =>
      rw [h] at hstop'
      cases hstop'
  · rfl

/-- A release leaves something unfinished just when there was something. -/
theorem unfinishedSegment_append_kept {before kept more : Bytes}
    (hnone : sseEventEnd (before ++ kept) = none) (hkept : 4 ≤ kept.length) :
    unfinishedSegment (before ++ kept ++ more) = [] ↔ unfinishedSegment (kept ++ more) = [] := by
  have hsame := @sseEventEnd_append_kept before kept more hnone hkept
  cases hfound : sseEventEnd (kept ++ more) with
  | some stop =>
      rw [hfound, Option.map_some] at hsame
      rw [unfinishedSegment_of_some hsame, unfinishedSegment_of_some hfound, List.append_assoc,
        List.drop_append, List.drop_of_length_le (Nat.le_add_right _ _), List.nil_append,
        Nat.add_sub_cancel_left]
  | none =>
      rw [hfound, Option.map_none] at hsame
      rw [unfinishedSegment_of_none hsame, unfinishedSegment_of_none hfound]
      have hne : kept ≠ [] := by
        intro hnil
        rw [hnil] at hkept
        cases hkept
      simp [hne]

/-! ## §3. The stream up to the error. -/

section Run

variable {filter : StreamFilter} {err : IoError} {later : List StreamItem}

/-- The rules of the filter match nothing in the body. -/
def StreamFilter.MatchesNothing (filter : StreamFilter) (body : Bytes) : Prop :=
  ∀ part, part <:+: body → ∀ text, Utf8.decode part = some text →
    filter.policy.inspectText filter.tables text = .ok .unchanged

/-- The stream gives these items, and then its first error. -/
def GivesBefore (items emitted : List Yielded) (err : IoError) : Prop :=
  (∃ rest, items = emitted ++ .failed err :: rest) ∧ ∀ err', Yielded.failed err' ∉ emitted

/-- A unit that is not changed comes first. -/
theorem givesBefore_cut {state state' : FilterStreamState} {unit : FilterUnit}
    {emitted : List Yielded} (hturn : state.turn = .cut unit state')
    (hunit : filter.filterResponseBytes unit.bytes = .ok ⟨unit.bytes, []⟩)
    (h : GivesBefore (filterFrom filter state') emitted err) :
    GivesBefore (filterFrom filter state) (.filtered unit (.ok ⟨unit.bytes, []⟩) :: emitted) err := by
  obtain ⟨⟨rest, hrest⟩, hnone⟩ := h
  refine ⟨⟨rest, ?_⟩, ?_⟩
  · rw [filterFrom_cut_ok hturn hunit, hrest]
    rfl
  · intro err' hmem
    cases hmem with
    | tail _ hmem => exact hnone err' hmem

theorem StreamFilter.MatchesNothing.unit {body : Bytes} (h : filter.MatchesNothing body)
    {part : Bytes} (hpart : part <:+: body) :
    filter.filterResponseBytes part = .ok ⟨part, []⟩ :=
  filterResponseBytes_of_unchanged (h part hpart)

theorem StreamFilter.MatchesNothing.mono {body body' : Bytes} (h : filter.MatchesNothing body)
    (hsub : body' <:+: body) : filter.MatchesNothing body' :=
  fun part hpart => h part (hpart.trans hsub)

theorem turn_of_long {state : FilterStreamState} (hevent : sseEventEnd state.pending = none)
    (hlong : state.pending.length > maxFilterPendingBytes) :
    state.turn = state.cut .release (state.pending.length - filterOverlapBytes) := by
  unfold FilterStreamState.turn
  rw [hevent]
  exact if_pos hlong

/-- From any state: what is written before the error is what was read, but for a tail that is
empty just when what was read ends at an event boundary. -/
theorem emitted_before_error (state : FilterStreamState) (chunks : List Bytes)
    (hfinished : state.finished = false)
    (hstream : state.stream = chunks.map .ok ++ .error err :: later)
    (hnothing : filter.MatchesNothing (state.pending ++ chunks.flatten)) :
    ∃ emitted tail, GivesBefore (filterFrom filter state) emitted err ∧
      writtenBytes emitted ++ tail = state.pending ++ chunks.flatten ∧
      (tail = [] ↔ unfinishedSegment (state.pending ++ chunks.flatten) = []) := by
  induction hslack : state.slack using Nat.strong_induction_on generalizing state chunks with
  | _ slack ih =>
      -- a unit of the pending bytes, and the rest by the induction hypothesis
      have hcut : ∀ kind size, state.turn = state.cut kind size → size ≤ state.pending.length →
          (unfinishedSegment (state.pending ++ chunks.flatten) = [] ↔
            unfinishedSegment (state.pending.drop size ++ chunks.flatten) = []) →
          ∃ emitted tail, GivesBefore (filterFrom filter state) emitted err ∧
            writtenBytes emitted ++ tail = state.pending ++ chunks.flatten ∧
            (tail = [] ↔ unfinishedSegment (state.pending ++ chunks.flatten) = []) := by
        intro kind size hturn hsize hiff
        have hsplit : state.pending.take size ++ (state.pending.drop size ++ chunks.flatten) =
            state.pending ++ chunks.flatten := by
          rw [← List.append_assoc, List.take_append_drop]
        have hless := slack_lt_of_turn (.inl ⟨_, hturn⟩)
        obtain ⟨emitted, tail, hgives, hwritten, htail⟩ := ih _ (hslack ▸ hless)
          { state with pending := state.pending.drop size } chunks hfinished hstream
          (hnothing.mono ⟨state.pending.take size, [], by rw [List.append_nil]; exact hsplit⟩) rfl
        have hunit : filter.filterResponseBytes (state.pending.take size) =
            .ok ⟨state.pending.take size, []⟩ :=
          hnothing.unit ⟨[], state.pending.drop size ++ chunks.flatten, hsplit⟩
        refine ⟨_, tail, givesBefore_cut hturn hunit hgives, ?_, htail.trans hiff.symm⟩
        show state.pending.take size ++ writtenBytes emitted ++ tail = _
        rw [List.append_assoc, hwritten]
        exact hsplit
      cases hevent : sseEventEnd state.pending with
      | some stop =>
          have hle := (sseEventEnd_some hevent).1
          refine hcut .event stop (turn_of_event hevent) hle ?_
          rw [unfinishedSegment_of_some (sseEventEnd_append hevent chunks.flatten),
            List.drop_append_of_le_length hle]
      | none =>
          by_cases hlong : state.pending.length > maxFilterPendingBytes
          · refine hcut .release _ (turn_of_long hevent hlong) (Nat.sub_le _ _) ?_
            have hsplit := List.take_append_drop (state.pending.length - filterOverlapBytes)
              state.pending
            have hkept : 4 ≤ (state.pending.drop (state.pending.length -
                filterOverlapBytes)).length := by
              unfold maxFilterPendingBytes at hlong
              unfold filterOverlapBytes
              rw [List.length_drop]
              omega
            rw [← hsplit] at hevent
            have hsame := @unfinishedSegment_append_kept _ _ chunks.flatten hevent hkept
            rw [hsplit] at hsame
            exact hsame
          · have hturn := turn_of_short hevent hlong
            rw [if_neg (by rw [hfinished]; exact Bool.false_ne_true), hstream] at hturn
            cases chunks with
            | nil =>
                -- the error is passed on, what is pending is not
                refine ⟨[], state.pending, ⟨⟨_, filterFrom_failed hturn⟩, nofun⟩, ?_, ?_⟩
                · rw [List.flatten_nil, List.append_nil]
                  rfl
                · rw [List.flatten_nil, List.append_nil, unfinishedSegment_of_none hevent]
            | cons chunk chunks =>
                have hless := slack_lt_of_turn (.inr (.inr hturn))
                have hread : state.pending ++ chunk ++ chunks.flatten =
                    state.pending ++ (chunk :: chunks).flatten := by
                  rw [List.flatten_cons, List.append_assoc]
                rw [← hread] at hnothing ⊢
                obtain ⟨emitted, tail, ⟨⟨rest, hrest⟩, hnone⟩, hwritten, htail⟩ :=
                  ih _ (hslack ▸ hless) ⟨chunks.map .ok ++ .error err :: later,
                    state.pending ++ chunk, state.finished⟩ chunks hfinished rfl hnothing rfl
                refine ⟨emitted, tail, ⟨⟨rest, ?_⟩, hnone⟩, hwritten, htail⟩
                rw [filterFrom_polled hturn]
                exact hrest

/-- For every filter whose rules match nothing in the body, every way to cut the body into
chunks, and an error of the upstream after them: the error is passed on, and the bytes that
are written before it are all of the body exactly when nothing of the body follows its last
event boundary. -/
theorem flushed_before_error_iff (filter : StreamFilter) (chunks : List Bytes) (err : IoError)
    (later : List StreamItem) (hnothing : filter.MatchesNothing chunks.flatten) :
    ∃ emitted,
      GivesBefore (filterResponseStream filter (chunks.map .ok ++ .error err :: later))
        emitted err ∧
      (writtenBytes emitted = chunks.flatten ↔ unfinishedSegment chunks.flatten = []) := by
  obtain ⟨emitted, tail, hgives, hwritten, htail⟩ := emitted_before_error
    ⟨chunks.map .ok ++ .error err :: later, [], false⟩ chunks rfl rfl hnothing
  refine ⟨emitted, hgives, ?_⟩
  dsimp only at hwritten htail
  rw [List.nil_append] at hwritten htail
  rw [← htail, ← hwritten]
  exact List.self_eq_append_right

end Run

/-! ## §4. A body that does not end at a boundary. -/

/-- A body without the letter `e` has no literal `key`. -/
theorem keyFilter_matchesNothing {body : Bytes} (hbody : 0x65 ∉ body) :
    keyFilter.MatchesNothing body := by
  intro part hpart text htext
  have hpolicy : keyFilter.policy.SingleLiteral keyFilter.tables "key".toList :=
    ⟨rfl, "key", rfl⟩
  rcases inspectText_single_literal hpolicy (by decide) text with ⟨hin, -⟩ | ⟨-, hunchanged⟩
  · have hmem : 'e' ∈ text := by
      have hvisible : 'e' ∈ Redaction.visible isIgnoredFormatChar text :=
        hin.subset (by decide)
      exact (List.mem_filter.mp hvisible).1
    have hbyte : 0x65 ∈ Utf8.encode text :=
      List.mem_flatMap.mpr ⟨'e', hmem, by decide⟩
    rw [← Utf8.decode_eq_some_iff.mp htext] at hbyte
    exact absurd (hpart.subset hbyte) hbody
  · exact hunchanged

/-- `ok` with the empty line that ends an event, and a reset connection: all is written. -/
theorem flushed_before_error_event :
    ∃ emitted,
      GivesBefore (filterResponseStream keyFilter
        ([[0x6f, 0x6b], [lf, lf]].map .ok ++ [.error (.upstream "reset")]))
        emitted (.upstream "reset") ∧
      writtenBytes emitted = [0x6f, 0x6b, lf, lf] := by
  have hnothing : keyFilter.MatchesNothing [[0x6f, 0x6b], [lf, lf]].flatten :=
    keyFilter_matchesNothing (by decide)
  obtain ⟨emitted, hgives, hiff⟩ := flushed_before_error_iff keyFilter [[0x6f, 0x6b], [lf, lf]]
    (.upstream "reset") [] hnothing
  refine ⟨emitted, hgives, hiff.mpr ?_⟩
  have hevent : sseEventEnd [0x6f, 0x6b, lf, lf] = some 4 := rfl
  show unfinishedSegment [0x6f, 0x6b, lf, lf] = []
  rw [unfinishedSegment_of_some hevent]
  exact unfinishedSegment_of_none rfl

/-- `ok` without the blank line: the error comes first.  No event has ended, so the two bytes
are still pending when the stream fails, and nothing is written of them before the error. -/
theorem pending_lost_at_error :
    ¬ ∃ emitted,
      GivesBefore (filterResponseStream keyFilter
        ([[0x6f, 0x6b]].map .ok ++ [.error (.upstream "reset")])) emitted (.upstream "reset") ∧
      writtenBytes emitted = [[0x6f, 0x6b]].flatten := by
  intro hall
  obtain ⟨emitted, ⟨⟨rest, hitems⟩, hnone⟩, hwritten⟩ := hall
  have hfirst : ∃ items, filterResponseStream keyFilter
      ([[0x6f, 0x6b]].map .ok ++ [.error (.upstream "reset")]) =
        .failed (.upstream "reset") :: items := by
    unfold filterResponseStream
    rw [filterFrom_polled rfl, filterFrom_failed rfl]
    exact ⟨_, rfl⟩
  obtain ⟨items, hfirst⟩ := hfirst
  rw [hfirst] at hitems
  cases emitted with
  | nil => cases hwritten
  | cons item emitted =>
      obtain ⟨rfl, -⟩ := List.cons.inj hitems
      exact hnone _ List.mem_cons_self

end OneAiKey
